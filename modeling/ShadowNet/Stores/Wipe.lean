import ShadowNet.Go.Run
import ShadowNet.Stores.Crash

/-! # Stores that are wiped

`WipeOnSuspicion` overwrites and removes the file of a store and fills the key of the store object
with zeros. The object stays usable: a `Save` that comes later seals under the zero key. The calls
of one object are serialized by its mutex.
-/

namespace ShadowNet

open Go Go.Json

/-- A store object, with the file at its path. -/
structure OpenStore where
  key : MasterKey
  file : Option Bytes

def zeroKey : MasterKey := ⟨List.replicate 32 0, by simp⟩

/-- What the operating system answers to `WipeOnSuspicion`. -/
structure WipeAnswers where
  /-- Whether `os.Stat` finds a file that is there. -/
  stat : Bool
  /-- Whether `rand.Reader` fills the buffer. -/
  random : Bool
  /-- The buffer, byte by byte. -/
  noise : ℕ → UInt8
  write : WriteAnswer
  /-- Whether `os.Remove` removes a file that is there. -/
  removes : Bool

def WipeAnswers.buffer (os : WipeAnswers) (old : Bytes) : Bytes :=
  (List.range old.length).map os.noise

/-- A file in the place of another one: the same, or some bytes of the buffer. -/
def WipeAnswers.Overwrites (os : WipeAnswers) (old new : Option Bytes) : Prop :=
  new = old ∨ ∃ contents count, old = some contents ∧ new = some ((os.buffer contents).take count)

/-- `os.Remove`, with the error for a file that is not there. -/
def OpenStore.remove (s : OpenStore) (os : WipeAnswers) (notExist : Except Message Unit) :
    Except Message Unit × OpenStore :=
  match s.file with
  | none => (notExist, s)
  | some _ => if os.removes then (.ok (), { s with file := none }) else (.error ⟨"%w", [.foreign]⟩, s)

/-- The first part of `profile.Store.WipeOnSuspicion`, at whose errors it returns. -/
def Store.overwrite (s : OpenStore) (os : WipeAnswers) : Except Message Unit × OpenStore :=
  match s.file, os.stat with
  | some old, true =>
      if os.random then
        (match os.write with
          | .done => .ok ()
          | .failed _ => .error ⟨"%w", [.foreign]⟩,
          { s with file := os.write.leaves s.file (os.buffer old) })
      else (.error ⟨"%w", [.foreign]⟩, s)
  | _, _ => (.ok (), s)

/-- `profile.Store.WipeOnSuspicion`. -/
def Store.wipeOnSuspicion (s : OpenStore) (os : WipeAnswers) : Except Message Unit × OpenStore :=
  match Store.overwrite s os with
  | (.error error, s) => (.error error, s)
  | (.ok (), s) => { s with key := zeroKey }.remove os (.ok ())

/-- The first part of `comms.Store.WipeOnSuspicion`, which goes on after any error. -/
def Comms.Store.overwrite (s : OpenStore) (os : WipeAnswers) : OpenStore :=
  match s.file, os.stat with
  | some old, true => { s with file := os.write.leaves s.file (os.buffer old) }
  | _, _ => s

/-- `comms.Store.WipeOnSuspicion`. -/
def Comms.Store.wipeOnSuspicion (s : OpenStore) (os : WipeAnswers) :
    Except Message Unit × OpenStore :=
  { Comms.Store.overwrite s os with key := zeroKey }.remove os (.error ⟨"%w", [.foreign]⟩)

/-- The calls on a store object, with what the operating system answers to them. -/
inductive StoreMethod (α γ : Type)
  | save (contents : α) (nonce : Option Nonce) (write : WriteAnswer)
  | load (query : γ) (readable : Bool)
  | wipeOnSuspicion (os : WipeAnswers)

inductive StoreResult (β : Type)
  | saved (result : Except Message Unit)
  | loaded (result : Except Message β)
  | wiped (result : Except Message Unit)

/-- What one kind of store does by itself. -/
structure StoreKind (α β γ : Type) where
  aead : MasterKey → Aead
  /-- The text that `Save` seals, unless it refuses the contents. -/
  plaintext : α → Except Message Bytes
  load : MasterKey → γ → Option Bytes → Except Message β
  wipe : OpenStore → WipeAnswers → Except Message Unit × OpenStore
  /-- Whether a wipe gets as far as the key. -/
  Zeroes : OpenStore → WipeAnswers → Prop
  wipe_zeroes : ∀ s os, Zeroes s os → (wipe s os).2.key = zeroKey
  wipe_stays : ∀ s os, ¬ Zeroes s os → (wipe s os).2.key = s.key
  wipe_file : ∀ s os, (wipe s os).2.file = none ∨ os.Overwrites s.file (wipe s os).2.file

namespace StoreKind

variable {α β γ : Type} (kind : StoreKind α β γ)

/-- What a `Save` under `key` has to write. -/
def sealed (key : MasterKey) (contents : α) (nonce : Option Nonce) : Except Message Bytes := do
  let plaintext ← kind.plaintext contents
  let nonce ← orError nonce ⟨"%w", [.foreign]⟩
  return nonce.val ++ (kind.aead key).gcmSeal nonce.val plaintext

def save (s : OpenStore) (contents : α) (nonce : Option Nonce) (write : WriteAnswer) :
    Except Message Unit × OpenStore :=
  match kind.sealed s.key contents nonce with
  | .error error => (.error error, s)
  | .ok file =>
      (match write with
        | .done => .ok ()
        | .failed _ => .error ⟨"%w", [.foreign]⟩,
        { s with file := write.leaves s.file file })

def call (s : OpenStore) : StoreMethod α γ → StoreResult β × OpenStore
  | .save contents nonce write =>
      let (result, next) := kind.save s contents nonce write
      (.saved result, next)
  | .load query readable =>
      (.loaded (if readable then kind.load s.key query s.file else .error ⟨"%w", [.foreign]⟩), s)
  | .wipeOnSuspicion os =>
      let (result, next) := kind.wipe s os
      (.wiped result, next)

def Step (s : OpenStore) (method : StoreMethod α γ) (next : OpenStore) : Prop :=
  (kind.call s method).2 = next

/-- A file that the zero key opens. -/
def Exposed (file : Option Bytes) : Prop :=
  ∃ bytes plaintext, file = some bytes ∧ 12 ≤ bytes.length ∧
    (kind.aead zeroKey).gcmOpen (bytes.take 12) (bytes.drop 12) = some plaintext

/-- A `Save` under the zero key fails without having sealed anything, and a file that the zero key
opens has not been left by the call. -/
def Guarded (s : OpenStore) (method : StoreMethod α γ) (next : OpenStore) : Prop :=
  (∀ contents nonce write, method = .save contents nonce write → s.key = zeroKey →
    (∃ error, kind.sealed s.key contents nonce = .error error) ∧
      ∃ error, (kind.save s contents nonce write).1 = .error error) ∧
  (kind.Exposed next.file → next.file = s.file)

/-- A `Save` that gets as far as sealing. -/
def Seals : StoreMethod α γ → Prop
  | .save contents nonce _ => nonce.isSome ∧ ∃ plaintext, kind.plaintext contents = .ok plaintext
  | _ => False

/-- A wipe that gets as far as the key. -/
def Wipes (s : OpenStore) : StoreMethod α γ → Prop
  | .wipeOnSuspicion os => kind.Zeroes s os
  | _ => False

/-- No `Save` that seals comes after a wipe that zeroes. -/
def NoSaveAfterWipe : OpenStore → List (StoreMethod α γ) → Prop
  | _, [] => True
  | s, method :: rest =>
      (kind.Wipes s method → ∀ later ∈ rest, ¬ kind.Seals later) ∧
        NoSaveAfterWipe (kind.call s method).2 rest

/-- What the run relies on besides the store: nothing that is sealed under the key of the store or
comes from `rand.Reader` opens under the zero key. -/
structure Unexposed (start : OpenStore) (calls : List (StoreMethod α γ)) : Prop where
  sealed : ∀ contents nonce write, .save contents nonce write ∈ calls →
    ∀ file, kind.sealed start.key contents nonce = .ok file →
      ∀ count, ¬ kind.Exposed (some (file.take count))
  noise : ∀ os, .wipeOnSuspicion os ∈ calls →
    ∀ old count, ¬ kind.Exposed (some ((os.buffer old).take count))

variable {kind}

/-- What is sealed is the nonce and the sealed plaintext. -/
theorem sealed_eq_ok {key : MasterKey} {contents : α} {nonce : Option Nonce} {file : Bytes} :
    kind.sealed key contents nonce = .ok file ↔
      ∃ plaintext, kind.plaintext contents = .ok plaintext ∧ ∃ own, nonce = some own ∧
        own.val ++ (kind.aead key).gcmSeal own.val plaintext = file := by
  simp only [sealed, bind_eq_ok, orError_eq_ok, pure_eq_ok]

/-- A save succeeds in sealing exactly where its contents can be sealed. -/
theorem seals_iff {contents : α} {nonce : Option Nonce} {write : WriteAnswer} (key : MasterKey) :
    kind.Seals (.save contents nonce write) ↔ ∃ file, kind.sealed key contents nonce = .ok file := by
  simp only [Seals, sealed_eq_ok]
  constructor
  · rintro ⟨given, plaintext, taken⟩
    obtain ⟨own, rfl⟩ := Option.isSome_iff_exists.mp given
    exact ⟨_, plaintext, taken, own, rfl, rfl⟩
  · rintro ⟨_, plaintext, taken, own, rfl, -⟩
    exact ⟨rfl, plaintext, taken⟩

/-- A wipe that gets to the key leaves it zero. -/
theorem call_key_wiped {s : OpenStore} {method : StoreMethod α γ} (wipes : kind.Wipes s method) :
    (kind.call s method).2.key = zeroKey := by
  cases method with
  | save | load => cases wipes
  | wipeOnSuspicion os => exact kind.wipe_zeroes s os wipes

/-- A save seals nothing and changes nothing, or it seals and writes. -/
theorem save_cases (s : OpenStore) (contents : α) (nonce : Option Nonce) (write : WriteAnswer) :
    (∃ error, kind.sealed s.key contents nonce = .error error ∧
      kind.save s contents nonce write = (.error error, s)) ∨
    ∃ file, kind.sealed s.key contents nonce = .ok file ∧
      (kind.save s contents nonce write).2 = { s with file := write.leaves s.file file } := by
  unfold save
  cases attempt : kind.sealed s.key contents nonce with
  | error error => exact .inl ⟨error, rfl, rfl⟩
  | ok file => exact .inr ⟨file, rfl, rfl⟩

/-- Any other call keeps the key. -/
theorem call_key_kept {s : OpenStore} {method : StoreMethod α γ} (stays : ¬ kind.Wipes s method) :
    (kind.call s method).2.key = s.key := by
  cases method with
  | load => rfl
  | wipeOnSuspicion os => exact kind.wipe_stays s os stays
  | save contents nonce write =>
    change (kind.save s contents nonce write).2.key = s.key
    obtain ⟨_, _, result⟩ | ⟨_, _, result⟩ := save_cases s contents nonce write
    · rw [result]
    · rw [result]

/-- A zero key stays one. -/
theorem call_key_zero {s : OpenStore} {method : StoreMethod α γ} (zero : s.key = zeroKey) :
    (kind.call s method).2.key = zeroKey := by
  by_cases wipes : kind.Wipes s method
  · exact call_key_wiped wipes
  · rw [call_key_kept wipes, zero]

/-- What a call leaves in the place of the file. -/
theorem call_file (s : OpenStore) (method : StoreMethod α γ) :
    (kind.call s method).2.file = s.file ∨ (kind.call s method).2.file = none ∨
    (∃ os old count, method = .wipeOnSuspicion os ∧
      (kind.call s method).2.file = some ((os.buffer old).take count)) ∨
    ∃ contents nonce write file count, method = .save contents nonce write ∧
      kind.sealed s.key contents nonce = .ok file ∧
      (kind.call s method).2.file = some (file.take count) := by
  cases method with
  | load => exact .inl rfl
  | wipeOnSuspicion os =>
    rcases kind.wipe_file s os with gone | same | ⟨old, count, _, left⟩
    · exact .inr (.inl gone)
    · exact .inl same
    · exact .inr (.inr (.inl ⟨os, old, count, rfl, left⟩))
  | save contents nonce write =>
    change (kind.save s contents nonce write).2.file = s.file ∨ _
    obtain ⟨_, _, result⟩ | ⟨file, made, result⟩ := save_cases s contents nonce write
    · exact .inl (by rw [result])
    · rcases write.leaves_cases s.file file with same | ⟨count, left⟩
      · exact .inl (by rw [result, same])
      · refine .inr (.inr (.inr ⟨contents, nonce, write, file, count, rfl, made, ?_⟩))
        exact (congrArg OpenStore.file result).trans left

/-- Under the zero key exactly the calls that do not seal meet the first half of `Guarded`. -/
theorem fails_iff {s : OpenStore} {method : StoreMethod α γ} :
    (∀ contents nonce write, method = .save contents nonce write → s.key = zeroKey →
      (∃ error, kind.sealed s.key contents nonce = .error error) ∧
        ∃ error, (kind.save s contents nonce write).1 = .error error) ↔
      (s.key = zeroKey → ¬ kind.Seals method) := by
  constructor
  · intro fails zero seals
    cases method with
    | load | wipeOnSuspicion => cases seals
    | save contents nonce write =>
      obtain ⟨file, made⟩ := (seals_iff s.key).mp seals
      obtain ⟨⟨error, failed⟩, -⟩ := fails contents nonce write rfl zero
      rw [made] at failed
      cases failed
  · rintro quiet contents nonce write rfl zero
    obtain ⟨error, failed, result⟩ | ⟨file, made, _⟩ := save_cases s contents nonce write
    · exact ⟨⟨error, failed⟩, error, by rw [result]⟩
    · exact absurd ((seals_iff s.key).mpr ⟨file, made⟩) (quiet zero)

/-- Where nothing is sealed nothing is sealed after a wipe. -/
theorem noSaveAfterWipe_of_quiet {calls : List (StoreMethod α γ)} {start : OpenStore}
    (quiet : ∀ method ∈ calls, ¬ kind.Seals method) : kind.NoSaveAfterWipe start calls := by
  induction calls generalizing start with
  | nil => trivial
  | cons method rest ih =>
    obtain ⟨_, others⟩ := List.forall_mem_cons.mp quiet
    exact ⟨fun _ => others, ih others⟩

/-- The calls after which the key is zero must not seal, and these are those after a wipe. -/
theorem always_quiet_iff {calls : List (StoreMethod α γ)} {start : OpenStore} :
    (start.key = zeroKey →
      (Always kind.Step (fun s method _ => s.key = zeroKey → ¬ kind.Seals method) start calls ↔
        ∀ method ∈ calls, ¬ kind.Seals method)) ∧
    (start.key ≠ zeroKey →
      (Always kind.Step (fun s method _ => s.key = zeroKey → ¬ kind.Seals method) start calls ↔
        kind.NoSaveAfterWipe start calls)) := by
  induction calls generalizing start with
  | nil => simp [Always, NoSaveAfterWipe]
  | cons method rest ih =>
    have unfolded (holds : OpenStore → StoreMethod α γ → OpenStore → Prop) :
        Always kind.Step holds start (method :: rest) ↔
          holds start method (kind.call start method).2 ∧
            Always kind.Step holds (kind.call start method).2 rest := by
      simp [Always, Step]
    obtain ⟨later, before⟩ := @ih (kind.call start method).2
    constructor
    · intro zero
      rw [unfolded, later (call_key_zero zero), List.forall_mem_cons]
      simp only [zero, forall_const]
    · intro own
      rw [unfolded, NoSaveAfterWipe]
      by_cases wipes : kind.Wipes start method
      · rw [later (call_key_wiped wipes)]
        constructor
        · rintro ⟨-, others⟩
          exact ⟨fun _ => others, noSaveAfterWipe_of_quiet others⟩
        · rintro ⟨others, -⟩
          exact ⟨fun zero => absurd zero own, others wipes⟩
      · rw [before (by rw [call_key_kept wipes]; exact own)]
        simp [own, wipes]

/-- The key that the store was made with, or zeros. -/
def Keyed (start s : OpenStore) : Prop := s.key = start.key ∨ s.key = zeroKey

/-- The key is the one that the store was opened with, or zero. -/
theorem call_keyed {start s : OpenStore} (keyed : Keyed start s) (method : StoreMethod α γ) :
    Keyed start (kind.call s method).2 := by
  by_cases wipes : kind.Wipes s method
  · exact .inr (call_key_wiped wipes)
  · unfold Keyed
    rw [call_key_kept wipes]
    exact keyed

/-- A call after which the zero key opens the file has not written it. -/
theorem call_exposes {calls : List (StoreMethod α γ)} {start s : OpenStore}
    (unexposed : kind.Unexposed start calls) (keyed : Keyed start s)
    {method : StoreMethod α γ} (member : method ∈ calls)
    (quiet : s.key = zeroKey → ¬ kind.Seals method)
    (exposed : kind.Exposed (kind.call s method).2.file) :
    (kind.call s method).2.file = s.file := by
  rcases call_file s method with same | gone | ⟨os, old, count, rfl, left⟩ |
    ⟨contents, nonce, write, sealed, count, rfl, made, left⟩
  · exact same
  · rw [gone] at exposed
    obtain ⟨_, _, ⟨⟩, _⟩ := exposed
  · rw [left] at exposed
    exact absurd exposed (unexposed.noise os member old count)
  · rw [left] at exposed
    rcases keyed with own | zero
    · exact absurd exposed (unexposed.sealed contents nonce write member sealed (own ▸ made) count)
    · exact absurd ((seals_iff s.key).mpr ⟨sealed, made⟩) (quiet zero)

/-- The zero key seals nothing and opens nothing exactly in the runs that end with the first wipe,
as far as `Save` is concerned. -/
theorem always_guarded_iff {calls : List (StoreMethod α γ)} {start : OpenStore}
    (created : start.key ≠ zeroKey) (unexposed : kind.Unexposed start calls) :
    Always kind.Step kind.Guarded start calls ↔ kind.NoSaveAfterWipe start calls := by
  rw [← always_quiet_iff.2 created]
  apply @always_iff _ _ _ (Keyed start)
  · rintro s _ method member keyed rfl
    rw [Guarded, fails_iff]
    constructor
    · exact And.left
    · intro quiet
      exact ⟨quiet, call_exposes unexposed keyed member quiet⟩
  · rintro s _ method _ keyed rfl _
    exact call_keyed keyed method
  · exact .inl rfl

end StoreKind

/-! ## The two stores -/

theorem OpenStore.remove_key (s : OpenStore) (os : WipeAnswers)
    (notExist : Except Message Unit) : (s.remove os notExist).2.key = s.key := by
  unfold remove
  split
  · rfl
  · split_ifs <;> rfl

/-- A removal leaves the file as it was, or none. -/
theorem OpenStore.remove_file (s : OpenStore) (os : WipeAnswers)
    (notExist : Except Message Unit) :
    (s.remove os notExist).2.file = s.file ∨ (s.remove os notExist).2.file = none := by
  unfold remove
  split
  · exact .inl rfl
  · split_ifs
    · exact .inr rfl
    · exact .inl rfl

theorem WipeAnswers.overwrites_write (os : WipeAnswers) (old : Bytes) :
    os.Overwrites (some old) (os.write.leaves (some old) (os.buffer old)) := by
  rcases os.write.leaves_cases (some old) (os.buffer old) with same | ⟨count, left⟩
  · exact .inl same
  · exact .inr ⟨old, count, rfl, left⟩

theorem Store.overwrite_key (s : OpenStore) (os : WipeAnswers) :
    (Store.overwrite s os).2.key = s.key := by
  unfold Store.overwrite
  split
  · split_ifs <;> rfl
  · rfl

/-- What an overwriting leaves of the profile store. -/
theorem Store.overwrite_file (s : OpenStore) (os : WipeAnswers) :
    os.Overwrites s.file (Store.overwrite s os).2.file := by
  unfold Store.overwrite
  split
  · rename_i old found _
    split_ifs
    · rw [found]
      exact os.overwrites_write old
    · exact .inl rfl
  · exact .inl rfl

/-- What an overwriting leaves of the other store. -/
theorem Comms.Store.overwrite_file (s : OpenStore) (os : WipeAnswers) :
    os.Overwrites s.file (Comms.Store.overwrite s os).file := by
  unfold Comms.Store.overwrite
  split
  · rename_i old found _
    rw [found]
    exact os.overwrites_write old
  · exact .inl rfl

/-- `profile.Store.WipeOnSuspicion` gets to the key unless a file that it finds withstands it. -/
def Store.Zeroes (s : OpenStore) (os : WipeAnswers) : Prop :=
  s.file = none ∨ os.stat = false ∨ os.random = true ∧ os.write = .done

/-- The overwriting succeeds exactly where it zeroes the file. -/
theorem Store.overwrite_ok_iff (s : OpenStore) (os : WipeAnswers) :
    (Store.overwrite s os).1 = .ok () ↔ Store.Zeroes s os := by
  unfold Store.overwrite Store.Zeroes
  cases s.file <;> cases os.stat <;> cases os.random <;> cases os.write <;> simp

/-- A wipe zeroes the file and goes on, or stops at an error with the key as it was. -/
theorem Store.wipe_cases (s : OpenStore) (os : WipeAnswers) :
    Store.Zeroes s os ∧ Store.wipeOnSuspicion s os =
        { (Store.overwrite s os).2 with key := zeroKey }.remove os (.ok ()) ∨
      ¬ Store.Zeroes s os ∧ (Store.wipeOnSuspicion s os).2 = (Store.overwrite s os).2 := by
  rw [← Store.overwrite_ok_iff, Store.wipeOnSuspicion]
  rcases Store.overwrite s os with ⟨_ | ⟨⟩, next⟩
  · exact .inr ⟨nofun, rfl⟩
  · exact .inl ⟨rfl, rfl⟩

/-- A removal keeps what has been left of a file, or nothing of it. -/
theorem OpenStore.remove_overwritten {os : WipeAnswers} {old : Option Bytes} {s : OpenStore}
    (overwritten : os.Overwrites old s.file) (notExist : Except Message Unit) :
    (s.remove os notExist).2.file = none ∨ os.Overwrites old (s.remove os notExist).2.file := by
  rcases s.remove_file os notExist with same | gone
  · rw [same]
    exact .inr overwritten
  · exact .inl gone

/-- The kind of `profile.Store`. -/
def profileStore (aead : MasterKey → Aead) : StoreKind (Option (List Profile)) (List Profile) Unit where
  aead
  plaintext profiles := .ok (marshal (.slice Profile.codec {}) profiles)
  load key _ file := (Store.load (aead key) file).mapError fun text => ⟨text, []⟩
  wipe := Store.wipeOnSuspicion
  Zeroes := Store.Zeroes
  wipe_zeroes s os zeroes := by
    obtain ⟨_, result⟩ | ⟨stays, _⟩ := Store.wipe_cases s os
    · rw [result, OpenStore.remove_key]
    · exact absurd zeroes stays
  wipe_stays s os stays := by
    obtain ⟨zeroes, _⟩ | ⟨_, result⟩ := Store.wipe_cases s os
    · exact absurd zeroes stays
    · rw [result, Store.overwrite_key]
  wipe_file s os := by
    obtain ⟨_, result⟩ | ⟨_, result⟩ := Store.wipe_cases s os
    · rw [result]
      apply OpenStore.remove_overwritten
      exact Store.overwrite_file s os
    · rw [result]
      exact .inr (Store.overwrite_file s os)

/-- The kind of `comms.Store`. -/
def commsStore (aead : MasterKey → Aead) (sorter : SliceSort) :
    StoreKind (Option Comms.State × Int64) Comms.State (Comms.DeviceRole × Int64) where
  aead
  plaintext given := do
    let state ← orError given.1 ⟨"comms: state is nil", []⟩
    let state := state.prune sorter given.2
    state.validate
    return marshal Comms.State.codec state
  load key query file := Comms.Store.load (aead key) query.1 query.2 file
  wipe := Comms.Store.wipeOnSuspicion
  Zeroes _ _ := True
  wipe_zeroes s os _ := by
    rw [Comms.Store.wipeOnSuspicion, OpenStore.remove_key]
  wipe_stays _ _ stays := absurd trivial stays
  wipe_file s os := by
    apply OpenStore.remove_overwritten
    exact Comms.Store.overwrite_file s os

/-- What the stores seal is what their `Save` writes. -/
theorem profileStore_sealed (aead : MasterKey → Aead) (key : MasterKey)
    (profiles : Option (List Profile)) (nonce : Nonce) :
    (profileStore aead).sealed key profiles (some nonce) = .ok (Store.save (aead key) nonce profiles) :=
  rfl

/-- What the second store seals is what its `Save` writes. -/
theorem commsStore_sealed (aead : MasterKey → Aead) (sorter : SliceSort) (key : MasterKey)
    (state : Option Comms.State) (now : Int64) (nonce : Nonce) :
    (commsStore aead sorter).sealed key (state, now) (some nonce) =
      Comms.Store.save (aead key) sorter nonce now state := by
  cases state with
  | none => rfl
  | some state =>
    change ((do (state.prune sorter now).validate; return _) >>= _ : Except Message Bytes) = _
    simp only [bind_assoc, pure_bind]
    rfl

/-! ## Stores under an AEAD to compute with -/

/-- A file with another byte than zero behind the nonce is not exposed. -/
theorem not_exposed {α β γ : Type} {kind : StoreKind α β γ}
    (tagged : kind.aead = fun key => taggedAead key.val) {file : Bytes}
    (unlike : ∀ byte, file[12]? = some byte → byte ≠ 0) : ¬ kind.Exposed (some file) := by
  rintro ⟨_, plaintext, ⟨⟩, _, opened⟩
  rw [tagged] at opened
  simp only [taggedAead] at opened
  split_ifs at opened with zeros
  obtain ⟨rest, split⟩ := of_decide_eq_true zeros
  have front : file[12]? = some 0 := by
    rw [← Nat.add_zero 12, ← List.getElem?_drop, ← split]
    rfl
  exact unlike 0 front rfl

/-- A store under this key, whose noise has no zeroes, is never exposed. -/
theorem unexposed_digitKey {α β γ : Type} {kind : StoreKind α β γ}
    (tagged : kind.aead = fun key => taggedAead key.val) {calls : List (StoreMethod α γ)}
    (noisy : ∀ os, .wipeOnSuspicion os ∈ calls → ∀ place, os.noise place ≠ 0) :
    kind.Unexposed ⟨digitKey, none⟩ calls := by
  constructor
  · intro contents nonce write _ file made count
    apply not_exposed tagged
    intro byte place
    obtain ⟨plaintext, _, own, _, rfl⟩ := StoreKind.sealed_eq_ok.mp made
    rw [List.getElem?_take] at place
    split_ifs at place
    rw [List.getElem?_append_right own.property.le, own.property, tagged] at place
    cases place
    decide
  · intro os member old count
    apply not_exposed tagged
    intro byte place
    have inside := List.mem_of_mem_take (List.mem_of_getElem? place)
    obtain ⟨index, _, rfl⟩ := List.mem_map.mp inside
    exact noisy os member index

/-- In a store made with another key, the zero key is never used exactly if no `Save` that seals
comes after a wipe that zeroes. -/
theorem wipedStores_guarded_iff (aead : MasterKey → Aead) (sorter : SliceSort) {start : OpenStore}
    (created : start.key ≠ zeroKey) :
    (∀ calls, (profileStore aead).Unexposed start calls →
      (Always (profileStore aead).Step (profileStore aead).Guarded start calls ↔
        (profileStore aead).NoSaveAfterWipe start calls)) ∧
    ∀ calls, (commsStore aead sorter).Unexposed start calls →
      (Always (commsStore aead sorter).Step (commsStore aead sorter).Guarded start calls ↔
        (commsStore aead sorter).NoSaveAfterWipe start calls) :=
  ⟨fun _ => StoreKind.always_guarded_iff created, fun _ => StoreKind.always_guarded_iff created⟩

def smoothAnswers : WipeAnswers := ⟨true, true, fun _ => 1, .done, true⟩

/-- Stores that are only read after they have been wiped. -/
theorem wipedStores_guarded :
    Always (profileStore fun key => taggedAead key.val).Step
        (profileStore fun key => taggedAead key.val).Guarded ⟨digitKey, none⟩
        [.save (some [{ id := lit "p1" }]) (some zeroNonce) .done, .wipeOnSuspicion smoothAnswers,
          .load () true] ∧
      Always (commsStore (fun key => taggedAead key.val) .stable).Step
        (commsStore (fun key => taggedAead key.val) .stable).Guarded ⟨digitKey, none⟩
        [.save (some (talkingState Comms.roleInside), 1000) (some zeroNonce) .done,
          .wipeOnSuspicion smoothAnswers, .load (Comms.roleInside, 2000) true] := by
  obtain ⟨profiles, comms⟩ := @wipedStores_guarded_iff (fun key => taggedAead key.val) .stable
    ⟨digitKey, none⟩ (by decide)
  have quiet {α β γ : Type} {kind : StoreKind α β γ} {query : γ} :
      ∀ later ∈ [StoreMethod.load query true], ¬ kind.Seals later := by
    intro later member seals
    obtain rfl := List.mem_singleton.mp member
    exact seals
  constructor
  · refine (profiles _ (unexposed_digitKey rfl ?_)).mpr ?_
    · simp [smoothAnswers]
    · exact ⟨False.elim, fun _ => quiet, False.elim, trivial⟩
  · refine (comms _ (unexposed_digitKey rfl ?_)).mpr ?_
    · simp [smoothAnswers]
    · exact ⟨False.elim, fun _ => quiet, False.elim, trivial⟩

/-- A `Save` after a wipe leaves a file that the zero key opens. -/
theorem wipedStores_exposed :
    (¬ Always (profileStore fun key => taggedAead key.val).Step
        (profileStore fun key => taggedAead key.val).Guarded ⟨digitKey, none⟩
        [.wipeOnSuspicion smoothAnswers, .save (some [{ id := lit "p1" }]) (some zeroNonce) .done] ∧
      ∃ last, Run (profileStore fun key => taggedAead key.val).Step ⟨digitKey, none⟩
          [.wipeOnSuspicion smoothAnswers, .save (some [{ id := lit "p1" }]) (some zeroNonce) .done]
          last ∧
        Store.load (taggedAead zeroKey.val) last.file = .ok [{ id := lit "p1" }]) ∧
    ¬ Always (commsStore (fun key => taggedAead key.val) .stable).Step
        (commsStore (fun key => taggedAead key.val) .stable).Guarded ⟨digitKey, none⟩
        [.wipeOnSuspicion smoothAnswers,
          .save (some (talkingState Comms.roleInside), 1000) (some zeroNonce) .done] ∧
      ∃ last, Run (commsStore (fun key => taggedAead key.val) .stable).Step ⟨digitKey, none⟩
          [.wipeOnSuspicion smoothAnswers,
            .save (some (talkingState Comms.roleInside), 1000) (some zeroNonce) .done] last ∧
        Comms.Store.load (taggedAead zeroKey.val) Comms.roleInside 2000 last.file =
          .ok ((talkingState Comms.roleInside).prune .stable 1000) := by
  refine ⟨⟨fun always => ?_, _, .cons rfl (.cons rfl (.nil _)), ?_⟩,
    fun always => ?_, _, .cons rfl (.cons rfl (.nil _)), ?_⟩
  · obtain ⟨_, later⟩ := always _ rfl
    obtain ⟨⟨fails, _⟩, _⟩ := later _ rfl
    obtain ⟨⟨_, failed⟩, _⟩ := fails _ _ _ rfl rfl
    cases failed
  · apply (Store.load_save_reloaded (taggedAead zeroKey.val) zeroNonce _).trans
    exact congrArg Except.ok (by decide)
  · obtain ⟨_, later⟩ := always _ rfl
    obtain ⟨⟨fails, _⟩, _⟩ := later _ rfl
    obtain ⟨⟨_, failed⟩, _⟩ := fails _ _ _ rfl rfl
    cases failed
  · apply (Comms.Store.load_save (talkingState_saved (taggedAead zeroKey.val))).mpr
    exact ⟨by decide, by decide⟩

end ShadowNet
