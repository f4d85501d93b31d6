import ShadowNet.Go.Base64
import ShadowNet.Go.Hex
import ShadowNet.Go.Unicode
import ShadowNet.Profile.Types

/-! # Encrypted stores

`Store` and `TemplateStore` keep one JSON value in a file, sealed with AES-GCM under a fresh nonce
that stands in front of the ciphertext. A file that is not there reads as an empty store.
-/

namespace ShadowNet

open Go Go.Json

abbrev MasterKey := { key : Bytes // key.length = 32 }

/-- A decoded key, if it has the right size. -/
def sizedKey (decoded : Option Bytes) : Option MasterKey :=
  decoded.bind fun key => if size : key.length = 32 then some ⟨key, size⟩ else none

/-- `ParseMasterKey`: 32 bytes as they are, 64 hexadecimal digits, or base64. -/
def parseMasterKey (text : GoString) : Except String MasterKey :=
  let s := trimSpace text
  if s = [] then .error "missing master key"
  else if size : s.length = 32 then .ok ⟨s, size⟩
  else
    let hexS := if hasPrefix s (lit "0x") || hasPrefix s (lit "0X") then s.drop 2 else s
    let encodings := [Base64.rawURLEncoding, Base64.urlEncoding, Base64.rawStdEncoding,
      Base64.stdEncoding]
    match (if hexS.length = 64 then sizedKey (hexDecode hexS) else none).or
        (encodings.findSome? fun enc => sizedKey (enc.decodeString s)) with
    | some key => .ok key
    | none =>
        .error ("invalid master key: expected 32 raw bytes, 64 hex chars, or base64/base64url " ++
          "encoding of 32 bytes")

/-- `cipher.AEAD` under the key of a store. -/
structure Aead where
  gcmSeal : Bytes → Bytes → Bytes
  gcmOpen : Bytes → Bytes → Option Bytes
  /-- What was sealed under a nonce opens under it. -/
  opens : ∀ nonce plaintext, gcmOpen nonce (gcmSeal nonce plaintext) = some plaintext

abbrev Nonce := { nonce : Bytes // nonce.length = 12 }

/-- Sealing that hides nothing. -/
def clearAead : Aead := ⟨fun _ plaintext => plaintext, fun _ ciphertext => some ciphertext, by simp⟩

def zeroNonce : Nonce := ⟨List.replicate 12 0, by simp⟩

/-- What every `Load` does with a file before it decodes the plaintext. -/
def Aead.unsealFile {ε β : Type} (aead : Aead) (malformed refused : ε)
    (decode : Bytes → Except ε β) (file : Bytes) : Except ε β :=
  if file.length < 12 then .error malformed
  else
    match aead.gcmOpen (file.take 12) (file.drop 12) with
    | none => .error refused
    | some plaintext => decode plaintext

/-- Of the text sealed under a nonce no shorter part opens. -/
def Aead.RefusesCut (aead : Aead) (nonce : Nonce) (plaintext : Bytes) : Prop :=
  ∀ n < (aead.gcmSeal nonce.val plaintext).length,
    aead.gcmOpen nonce.val ((aead.gcmSeal nonce.val plaintext).take n) = none

section

variable {ε β : Type} {aead : Aead} {malformed refused : ε} {decode : Bytes → Except ε β}

theorem Aead.unsealFile_append (nonce : Nonce) (body : Bytes) :
    aead.unsealFile malformed refused decode (nonce.val ++ body) =
      match aead.gcmOpen nonce.val body with
      | none => .error refused
      | some plaintext => decode plaintext := by
  have long : ¬ (nonce.val ++ body).length < 12 := by
    rw [List.length_append, nonce.property]
    omega
  rw [unsealFile, if_neg long, List.take_left' nonce.property, List.drop_left' nonce.property]

theorem Aead.unsealFile_sealed (nonce : Nonce) (plaintext : Bytes) :
    aead.unsealFile malformed refused decode (nonce.val ++ aead.gcmSeal nonce.val plaintext) =
      decode plaintext := by
  rw [unsealFile_append, aead.opens]

/-- No part of a sealed file is more than an error. -/
theorem Aead.unsealFile_cut {nonce : Nonce} {plaintext : Bytes}
    (refuses : aead.RefusesCut nonce plaintext) {n : ℕ}
    (cut : n < (nonce.val ++ aead.gcmSeal nonce.val plaintext).length) :
    ∃ error, aead.unsealFile malformed refused decode
      ((nonce.val ++ aead.gcmSeal nonce.val plaintext).take n) = .error error := by
  rw [List.length_append, nonce.property] at cut
  by_cases short : n < 12
  · refine ⟨malformed, if_pos ?_⟩
    rw [List.length_take]
    omega
  · refine ⟨refused, ?_⟩
    have whole : nonce.val.take n = nonce.val :=
      List.take_of_length_le (by rw [nonce.property]; omega)
    rw [List.take_append, whole, nonce.property, unsealFile_append, refuses (n - 12) (by omega)]

end

section

variable {α : Type} (aead : Aead) (codec : Codec α) (zero : α)

/-- The file that `Save` writes. -/
def sealFile (nonce : Nonce) (value : α) : Bytes :=
  nonce.val ++ aead.gcmSeal nonce.val (marshal codec value)

/-- `Load` on the file at the path of the store. -/
def openFile : Option Bytes → Except String α
  | none => .ok zero
  | some file =>
      if file.length < 12 then .error "malformed ciphertext"
      else
        match aead.gcmOpen (file.take 12) (file.drop 12) with
        | none => .error "decryption failed (wrong key or corrupted data): %w"
        | some plaintext =>
            match unmarshal codec zero plaintext with
            | none => .error "%w"
            | some value => .ok value

theorem openFile_eq_unsealFile (file : Bytes) :
    openFile aead codec zero (some file) =
      aead.unsealFile "malformed ciphertext" "decryption failed (wrong key or corrupted data): %w"
        (fun plaintext => match unmarshal codec zero plaintext with
          | none => .error "%w"
          | some value => .ok value) file := rfl

/-- A value that survives its JSON text is loaded back from the file it was saved to. -/
theorem openFile_sealFile {value : α} (nonce : Nonce) (restores : codec.Restores zero value)
    (wire : (codec.encode value).Wire) (room : (codec.encode value).depth ≤ maxNestingDepth) :
    openFile aead codec zero (some (sealFile aead codec nonce value)) = .ok value := by
  rw [openFile_eq_unsealFile, sealFile, Aead.unsealFile_sealed]
  simp only [unmarshal_marshal restores wire room]

/-- Any value is loaded back as its JSON text reads. -/
theorem openFile_sealFile_reads {value read : α} (nonce : Nonce)
    (reads : codec.Reads zero value read) (numeric : (codec.encode value).Numeric)
    (room : (codec.encode value).depth ≤ maxNestingDepth) :
    openFile aead codec zero (some (sealFile aead codec nonce value)) = .ok read := by
  rw [openFile_eq_unsealFile, sealFile, Aead.unsealFile_sealed]
  simp only [unmarshal_reads reads numeric room]

theorem openFile_cut {nonce : Nonce} {value : α}
    (refuses : aead.RefusesCut nonce (marshal codec value)) {n : ℕ}
    (cut : n < (sealFile aead codec nonce value).length) :
    ∃ error, openFile aead codec zero (some ((sealFile aead codec nonce value).take n)) =
      .error error := by
  rw [openFile_eq_unsealFile]
  exact Aead.unsealFile_cut refuses cut

/-- What a store loads is good where decoding keeps it so. -/
theorem openFile_keeps {good : α → Prop} (keeps : codec.Keeps good) (start : good zero)
    {file : Option Bytes} {value : α} (loaded : openFile aead codec zero file = .ok value) :
    good value := by
  cases file with
  | none => exact Except.ok.inj loaded ▸ start
  | some file =>
    unfold openFile at loaded
    simp only at loaded
    split_ifs at loaded
    split at loaded
    · cases loaded
    · split at loaded
      · cases loaded
      · rename_i plaintext _ decoded read
        obtain ⟨json, parsed, stored⟩ := Option.bind_eq_some_iff.mp read
        cases loaded
        exact keeps false zero json _ start (parse_wire parsed) stored

end

/-- A slice that has only been appended to is nil while it is empty. -/
def appended {α : Type} (items : List α) : Option (List α) := if items = [] then none else some items

def Store.save (aead : Aead) (nonce : Nonce) (profiles : Option (List Profile)) : Bytes :=
  sealFile aead (.slice Profile.codec {}) nonce profiles

def Store.load (aead : Aead) (file : Option Bytes) : Except String (List Profile) :=
  (openFile aead (.slice Profile.codec {}) none file).map (·.getD [])

def TemplateStore.save (aead : Aead) (nonce : Nonce) (templates : Map GoString GoString) : Bytes :=
  sealFile aead (.map .string []) nonce templates

def TemplateStore.load (aead : Aead) (file : Option Bytes) :
    Except String (Map GoString GoString) :=
  openFile aead (.map .string []) ∅ file

/-- The templates as they are read back: those whose names JSON writes alike become one. -/
def reloadedTemplates (templates : Map GoString GoString) : Map GoString GoString :=
  (∅ : Map GoString GoString).insertAll
    (templates.entries.map fun entry => (toValid entry.1, toValid entry.2))

theorem Store.load_utf8 {aead : Aead} {file : Option Bytes} {profiles : List Profile}
    (loaded : Store.load aead file = .ok profiles) : ∀ p ∈ profiles, p.Utf8 := by
  cases opened : openFile aead (.slice Profile.codec {}) none file with
  | error text => simp only [Store.load, opened, Except.map] at loaded; cases loaded
  | ok held =>
    simp only [Store.load, opened, Except.map] at loaded
    cases loaded
    exact openFile_keeps aead _ none (keeps_slice Profile.utf8_zero Profile.codec_keeps) (by simp)
      opened

theorem TemplateStore.load_utf8 {aead : Aead} {file : Option Bytes}
    {templates : Map GoString GoString} (loaded : TemplateStore.load aead file = .ok templates) :
    ∀ entry ∈ templates.entries, Valid entry.1 ∧ Valid entry.2 :=
  openFile_keeps aead _ ∅ (keeps_map (by decide) keeps_string) (fun _ member => nomatch member) loaded

theorem TemplateStore.load_save (aead : Aead) (nonce : Nonce) {templates : Map GoString GoString}
    (utf8 : ∀ entry ∈ templates.entries, Valid entry.1 ∧ Valid entry.2) :
    TemplateStore.load aead (some (TemplateStore.save aead nonce templates)) = .ok templates := by
  refine openFile_sealFile aead _ ∅ nonce
    (restores_map _ fun _ _ => restores_string _ _) (wire_map [] utf8) ?_
  exact (depth_map [] fun _ _ => Nat.zero_le 0).trans (by decide)

theorem Store.load_save (aead : Aead) (nonce : Nonce) {profiles : List Profile}
    (utf8 : ∀ p ∈ profiles, p.Utf8) :
    Store.load aead (some (Store.save aead nonce (appended profiles))) = .ok profiles := by
  have items : (appended profiles).getD [] = profiles := by
    unfold appended
    split_ifs with empty
    · exact empty.symm
    · rfl
  have opened : openFile aead (.slice Profile.codec {}) none
      (some (Store.save aead nonce (appended profiles))) = .ok (appended profiles) := by
    refine openFile_sealFile aead _ none nonce
      (restores_slice _ _ fun profile _ => profile.restores)
      (wire_slice {} fun profile member => (utf8 profile (items ▸ member)).wire) ?_
    exact (depth_slice {} fun profile _ => profile.codec_depth).trans (by decide)
  rw [Store.load, opened, Except.map, items]

theorem Store.load_save_reloaded (aead : Aead) (nonce : Nonce) (profiles : Option (List Profile)) :
    Store.load aead (some (Store.save aead nonce profiles)) =
      .ok ((profiles.getD []).map Profile.reloaded) := by
  have opened : openFile aead (.slice Profile.codec {}) none
      (some (Store.save aead nonce profiles)) =
        .ok (profiles.map (List.map Profile.reloaded)) := by
    apply openFile_sealFile_reads
    · exact reads_slice _ _ fun profile _ => profile.codec_reads
    · exact numeric_slice {} fun profile _ => profile.codec_numeric
    · exact (depth_slice {} fun profile _ => profile.codec_depth).trans (by decide)
  rw [Store.load, opened, Except.map]
  cases profiles <;> rfl

theorem TemplateStore.load_save_reloaded (aead : Aead) (nonce : Nonce)
    (templates : Map GoString GoString) :
    TemplateStore.load aead (some (TemplateStore.save aead nonce templates)) =
      .ok (reloadedTemplates templates) := by
  apply openFile_sealFile_reads
  · exact reads_map _ _ fun _ _ => reads_string _ _
  · exact numeric_map [] fun _ _ => trivial
  · exact (depth_map [] fun _ _ => Nat.zero_le 0).trans (by decide)

theorem Store.load_cut {aead : Aead} {nonce : Nonce} {profiles : Option (List Profile)}
    (refuses : aead.RefusesCut nonce (marshal (.slice Profile.codec {}) profiles)) {n : ℕ}
    (cut : n < (Store.save aead nonce profiles).length) :
    ∃ error, Store.load aead (some ((Store.save aead nonce profiles).take n)) = .error error := by
  obtain ⟨error, failed⟩ := openFile_cut aead (.slice Profile.codec {}) none refuses cut
  refine ⟨error, ?_⟩
  rw [Store.load, Store.save, failed]
  rfl

theorem TemplateStore.load_cut {aead : Aead} {nonce : Nonce} {templates : Map GoString GoString}
    (refuses : aead.RefusesCut nonce (marshal (.map .string []) templates)) {n : ℕ}
    (cut : n < (TemplateStore.save aead nonce templates).length) :
    ∃ error, TemplateStore.load aead (some ((TemplateStore.save aead nonce templates).take n)) =
      .error error :=
  openFile_cut aead _ ∅ refuses cut

end ShadowNet
