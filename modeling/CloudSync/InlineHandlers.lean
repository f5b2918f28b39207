import CloudSync.Markup.Escaped
import CloudSync.NamespaceRows
import CloudSync.Reachable
import CloudSync.Serial

/-!
# Inline handlers

The panel writes stored values into `onclick` attributes: `escJs` puts a backslash before
apostrophes and backslashes, and leaves quotation marks, ampersands and line breaks alone.
-/

namespace CloudSync

open Rust Markup

set_option autoImplicit false

/-! ## The panel's script -/

/-- `replace` with a pattern of one character, everywhere. -/
def replaceAll (s : String) (ch : Char) (replacement : String) : String :=
  String.ofList (s.toList.flatMap fun c => if c = ch then replacement.toList else [c])

def escJs (s : String) : String := replaceAll (replaceAll s '\\' "\\\\") '\'' "\\'"

/-- Letters, digits and hyphens, as in the identifiers of devices and tokens. -/
def isIdChar (ch : Char) : Bool := ch.isAlphanum || ch == '-'

/-- The panel does not escape an identifier. -/
def Identifier := {id : String // id.toList.all isIdChar = true}

/-- Characters that mean nothing in an attribute. -/
def isPlain (ch : Char) : Bool := ch != '"' && ch != '&' && ch != '\x00'

/-- The code of an `onclick` attribute before the apostrophe of a value and behind the closing one. -/
structure InlineHandler where
  before : String
  after : String
  plain : (before.toList ++ after.toList).all isPlain = true

/-- The attribute's text, with its closing quotation mark. -/
def InlineHandler.onclick (handler : InlineHandler) (value : String) : String :=
  handler.before ++ "'" ++ escJs value ++ "'" ++ handler.after ++ "\""

theorem isPlain_of_isIdChar {ch : Char} (h : isIdChar ch = true) : isPlain ch = true := by
  by_contra hplain
  simp only [isPlain, Bool.and_eq_true, bne_iff_ne, not_and_or, not_not] at hplain
  rcases hplain with (rfl | rfl) | rfl <;> cases h

/-- A handler with an identifier before the value. -/
def InlineHandler.ofIdentifier (name : String) (hname : name.toList.all isPlain = true) (id : Identifier) :
    InlineHandler where
  before := name ++ "('" ++ id.val ++ "', "
  after := ")"
  plain := by
    have hid : id.val.toList.all isPlain = true :=
      List.all_eq_true.mpr fun ch hch => isPlain_of_isIdChar (List.all_eq_true.mp id.property ch hch)
    simp only [String.toList_append, List.all_append, hname, hid, Bool.true_and]
    decide

def editTokenExpiry (id : Identifier) : InlineHandler := .ofIdentifier "editTokenExpiry" (by decide) id

def editDeviceToken (id : Identifier) : InlineHandler := .ofIdentifier "editDeviceToken" (by decide) id

def editDeviceNotes (id : Identifier) : InlineHandler := .ofIdentifier "editDeviceNotes" (by decide) id

def toggleUserEnabled (enabled : Bool) : InlineHandler where
  before := "toggleUserEnabled("
  after := if enabled then ", false)" else ", true)"
  plain := by cases enabled <;> decide

def changeUserPassword : InlineHandler := ⟨"changeUserPassword(", ")", by decide⟩

def deleteUser : InlineHandler := ⟨"deleteUser(", ")", by decide⟩

def restoreNs : InlineHandler := ⟨"restoreNs(", ")", by decide⟩

def purgeNs : InlineHandler := ⟨"purgeNs(", ")", by decide⟩

def softDeleteNs : InlineHandler := ⟨"softDeleteNs(", ")", by decide⟩

/-! ## What a browser makes of it -/

/-- The attribute ends where it should, its code goes on with a literal, and the literal's value is
`value` and ends where it should. -/
def Arrives (refs : NamedReferences) (handler : InlineHandler) (value : String) : Prop :=
  ∀ markup : List Char, ∃ code : List Char,
    refs.attributeValue ((handler.onclick value).toList ++ markup) =
      some (handler.before.toList ++ '\'' :: code, markup) ∧
    literal code = some (utf16 value.toList, handler.after.toList)

/-- Without the characters that `escJs` would have to take care of. -/
structure Harmless (refs : NamedReferences) (value : String) : Prop where
  quote : '"' ∉ value.toList
  line : '\n' ∉ value.toList
  carriageReturn : '\r' ∉ value.toList
  null : '\x00' ∉ value.toList
  reference : refs.NoReference value.toList

theorem replaceAll_toList (s : String) (ch : Char) (replacement : String) :
    (replaceAll s ch replacement).toList =
      s.toList.flatMap fun c => if c = ch then replacement.toList else [c] := String.toList_ofList

/-- The two passes escape each delimiter once. -/
theorem escJs_toList (s : String) : (escJs s).toList = escaped s.toList := by
  rw [escJs, replaceAll_toList, replaceAll_toList, List.flatMap_assoc]
  unfold escaped
  congr 1
  funext ch
  by_cases hbackslash : ch = '\\'
  · subst hbackslash
    decide
  · rw [if_neg hbackslash, List.flatMap_cons, List.flatMap_nil, List.append_nil]
    by_cases hquote : ch = '\''
    · subst hquote
      decide
    · rw [if_neg hquote, if_neg]
      simp [isDelimiter, hbackslash, hquote]

variable {refs : NamedReferences}

theorem decode_of_plain {text : List Char} (h : text.all isPlain = true) : refs.decode text = text := by
  unfold NamedReferences.decode
  induction text with
  | nil => rfl
  | cons ch text ih =>
    rw [List.all_cons, Bool.and_eq_true] at h
    have hplain := h.1
    simp only [isPlain, Bool.and_eq_true, bne_iff_ne] at hplain
    rw [NamedReferences.decodeFrom, if_neg hplain.1.2, if_neg hplain.2, ih h.2]

theorem quote_notMem_of_plain {text : List Char} (h : text.all isPlain = true) : '"' ∉ text := by
  intro hmem
  exact absurd (List.all_eq_true.mp h _ hmem) (by decide)

theorem decode_onclick (handler : InlineHandler) (value : String) :
    refs.decode (handler.before.toList ++ '\'' :: (escaped value.toList ++ '\'' :: handler.after.toList)) =
      handler.before.toList ++ '\'' :: (refs.decode (escaped value.toList) ++ '\'' :: handler.after.toList) := by
  have hplain := handler.plain
  rw [List.all_append, Bool.and_eq_true] at hplain
  rw [decode_append (by decide) (by decide) (by decide), decode_append (by decide) (by decide) (by decide),
    decode_of_plain hplain.1, decode_of_plain hplain.2]

theorem onclick_toList (handler : InlineHandler) (value : String) :
    (handler.onclick value).toList =
      (handler.before.toList ++ '\'' :: (escaped value.toList ++ '\'' :: handler.after.toList)) ++ ['"'] := by
  simp [InlineHandler.onclick, escJs_toList]

theorem quote_mem_onclick (handler : InlineHandler) (value : String) :
    '"' ∈ (handler.before.toList ++
      '\'' :: (escaped value.toList ++ '\'' :: handler.after.toList)) ↔ '"' ∈ value.toList := by
  have hplain := handler.plain
  rw [List.all_append, Bool.and_eq_true] at hplain
  simp [quote_notMem_of_plain hplain.1, quote_notMem_of_plain hplain.2, mem_escaped]

theorem attributeValue_onclick {handler : InlineHandler} {value : String} (h : '"' ∉ value.toList)
    (markup : List Char) :
    refs.attributeValue ((handler.onclick value).toList ++ markup) =
      some (handler.before.toList ++
        '\'' :: (refs.decode (escaped value.toList) ++ '\'' :: handler.after.toList), markup) := by
  rw [onclick_toList, List.append_assoc, List.singleton_append, NamedReferences.attributeValue,
    untilQuote_append ((quote_mem_onclick handler value).not.mpr h), Option.map_some, decode_onclick]

theorem harmless_of_arrives {handler : InlineHandler} {value : String}
    (h : Arrives refs handler value) : Harmless refs value := by
  obtain ⟨code, hcode, hliteral⟩ := h []
  have hquote : '"' ∉ value.toList := by
    intro hmem
    obtain ⟨parts, hparts, hmarkup⟩ := Option.map_eq_some_iff.mp hcode
    rw [List.append_nil, onclick_toList] at hparts
    have hlength := length_le_of_quote ((quote_mem_onclick handler value).mpr hmem) hparts
    rw [(Prod.mk.inj hmarkup).2] at hlength
    exact absurd hlength (by decide)
  rw [attributeValue_onclick hquote] at hcode
  have hsame := List.append_cancel_left (Prod.mk.inj (Option.some.inj hcode)).1
  rw [← (List.cons.inj hsame).2] at hliteral
  obtain ⟨hline, hreturn, hnull, hreference⟩ := literal_decode_escaped_iff.mp hliteral
  exact ⟨hquote, hline, hreturn, hnull, hreference⟩

theorem arrives_of_harmless (handler : InlineHandler) {value : String} (h : Harmless refs value) :
    Arrives refs handler value := by
  intro markup
  exact ⟨_, attributeValue_onclick h.quote markup,
    literal_decode_escaped_iff.mpr ⟨h.line, h.carriageReturn, h.null, h.reference⟩⟩

/-- For every handler and every value. -/
theorem inlineHandler_arrives_iff (handler : InlineHandler) (value : String) :
    Arrives refs handler value ↔ Harmless refs value :=
  ⟨harmless_of_arrives, arrives_of_harmless handler⟩

/-! ## Names -/

theorem noReference_of_notMem {text : List Char} (h : '&' ∉ text) : refs.NoReference text := by
  induction text with
  | nil => exact True.intro
  | cons ch text ih =>
    obtain ⟨hch, htext⟩ := not_or.mp (List.mem_cons.not.mp h)
    exact ⟨fun hamp => absurd hamp.symm hch, ih htext⟩

theorem harmless_of_forall {p : Char → Bool} (hp : p '"' = false ∧ p '&' = false ∧ p '\n' = false ∧
    p '\r' = false ∧ p '\x00' = false) {value : String} (h : ∀ ch ∈ value.toList, p ch = true) :
    Harmless refs value := by
  have hnot {ch : Char} (hch : p ch = false) : ch ∉ value.toList := fun hmem => by
    rw [h ch hmem] at hch
    cases hch
  exact ⟨hnot hp.1, hnot hp.2.2.1, hnot hp.2.2.2.1, hnot hp.2.2.2.2, noReference_of_notMem (hnot hp.2.1)⟩

/-- The name of a valid namespace arrives. -/
theorem arrives_namespace {c : Crates} {ns : String} (h : validateNamespace c ns = .ok ())
    (handler : InlineHandler) : Arrives refs handler ns := by
  have hascii {ch : Char} (hch : ch.toNat < 128) (hplain : ch.isAlphanum = false ∧ ch ≠ '-' ∧ ch ≠ '_' ∧
      ch ≠ '.') : nameChar c ch = false := by
    simp [nameChar, c.isAlphanumeric_ascii ch hch, hplain]
  refine arrives_of_harmless handler (harmless_of_forall ⟨?_, ?_, ?_, ?_, ?_⟩ fun ch => nameChar_of_valid h)
  all_goals exact hascii (by decide) (by decide)

/-- The name of an administrator whose account the panel lets through arrives. -/
theorem arrives_username {username : String} (h : validateAdminUsername username = .ok ())
    (handler : InlineHandler) : Arrives refs handler username := by
  have hall : (chars username).all (fun ch =>
      isAsciiAlphanumeric ch || ch == '-' || ch == '_' || ch == '.') = true := by
    unfold validateAdminUsername at h
    split at h
    · cases h
    · split at h
      · cases h
      · next hall => rwa [Bool.not_eq_true', Bool.not_eq_false] at hall
  rw [chars_eq] at hall
  exact arrives_of_harmless handler (harmless_of_forall (by decide) (List.all_eq_true.mp hall))

/-! ## Notes that do not arrive -/

/-- The names of references that markup itself needs. -/
def markupReferences : NamedReferences where
  names := [("amp;".toList, ['&']), ("amp".toList, ['&']), ("lt;".toList, ['<']), ("lt".toList, ['<']),
    ("gt;".toList, ['>']), ("gt".toList, ['>']), ("quot;".toList, ['"']), ("quot".toList, ['"']),
    ("apos;".toList, ['\''])]
  words := by decide
  shorter := by decide

/-- `" onmouseover="alert(1)` -/
def markedNotes : String := "\" onmouseover=\"alert(1)"

/-- A new database in which a device has been created, with notes. -/
def markedDb : Db :=
  (serve freshCrates freshState (numberedAmbient (fun _ => "") 0) (panelRequest (.adminCreateDevice
    { name := "laptop"
      namespacePattern := none
      tokenId := none
      enabled := none
      lastClientVersion := none
      notes := some markedNotes })) freshDb).2

theorem markedDb_eq : markedDb = servedFresh 0 (panelRequest (.adminCreateDevice
    { name := "laptop"
      namespacePattern := none
      tokenId := none
      enabled := none
      lastClientVersion := none
      notes := some markedNotes })) := rfl

def listMarked : Answer :=
  (serve freshCrates freshState (numberedAmbient (fun _ => "") 1) (panelRequest .adminListDevices)
    markedDb).1

/-- The answer to request `i` on that database. -/
def answerMarked (i : Nat) (r : Request) : Answer :=
  (serve freshCrates freshState (numberedAmbient (fun _ => "") i) r markedDb).1

theorem listMarked_eq : listMarked = answerMarked 1 (panelRequest .adminListDevices) := rfl

theorem answerMarked_short {r : Request} (hr : Scripted r) (i : Nat) :
    answerMarked i r =
      (serve freshCrates.shortened freshState (numberedAmbient (fun _ => "") i) r.shortened markedDb).1 := by
  rw [answerMarked, serve_shortened knowsAdmin_freshCrates hr]

def devicesOf : Answer → List DeviceRecord
  | .ok (.devices records) => records
  | _ => []

set_option maxRecDepth 10000 in
/-- The listing has the notes, and a browser sees another attribute behind the handler's. -/
theorem notes_add_attribute :
    ∃ device ∈ devicesOf listMarked, device.notes = some markedNotes ∧
      ∃ hid : device.id.toList.all isIdChar = true,
        ¬ Arrives markupReferences (editDeviceNotes ⟨device.id, hid⟩) markedNotes ∧
        (markupReferences.attributeValue
          ((editDeviceNotes ⟨device.id, hid⟩).onclick markedNotes).toList).map Prod.snd =
            some " onmouseover=\"alert(1)')\"".toList := by
  have hlisted : (devicesOf listMarked).map (fun device => (device.id, device.notes)) =
      [(numberedUuid 0 0, some markedNotes)] := by
    rw [listMarked_eq, answerMarked_short (.panel _ rfl), markedDb_eq, servedFresh_short (.panel _ rfl)]
    decide +kernel
  obtain ⟨device, hdevices, hdevice⟩ := List.map_eq_singleton_iff.mp hlisted
  obtain ⟨hid, hnotes⟩ := Prod.mk.inj hdevice
  refine ⟨device, hdevices ▸ List.mem_singleton_self device, hnotes, ?_⟩
  rw [hid]
  refine ⟨by decide +kernel, fun h => ?_, by decide +kernel⟩
  exact absurd (harmless_of_arrives h).quote (by decide)

end CloudSync
