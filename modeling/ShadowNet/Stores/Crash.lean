import ShadowNet.Comms.Store
import ShadowNet.Go.WriteFile
import ShadowNet.Policy.AdaptiveStore

/-! # Saves that are stopped

All four stores overwrite their file in place. A `Save` that stops between the truncation and the
last byte leaves a part of the new file, which no `Load` opens, and the old contents are gone. The
contents that are left whole come back as JSON writes them.
-/

namespace ShadowNet

open Go Go.Json

/-! ## Loading what a stopped `Save` leaves -/

section

variable {ε α β : Type} {load : Option Bytes → Except ε β} {old new : Bytes} {first second : α}

/-- A `Load` returns the one contents or the other. -/
def ReturnsEither (loaded : Except ε β) (old new : β) : Prop := loaded = .ok old ∨ loaded = .ok new

/-- Stores whose contents come back under a condition. -/
theorem returnsEither_iff_gives (gives : α → β → Prop)
    (before : ∀ result, load (some old) = .ok result ↔ gives first result)
    (after : ∀ result, load (some new) = .ok result ↔ gives second result)
    (cut : ∀ count < new.length, ∃ error, load (some (new.take count)) = .error error)
    (stop : WriteEnd) {one other : β} :
    ReturnsEither (load (stop.leaves (some old) new)) one other ↔
      ∃ kept, stop.kept first second new.length = some kept ∧ (gives kept one ∨ gives kept other) := by
  have loads := WriteEnd.loads_iff before after cut stop
  simp only [ReturnsEither, loads, ← exists_or, ← and_or_left]

/-- Stores whose contents always come back. -/
theorem returnsEither_iff {reread : α → β} (before : load (some old) = .ok (reread first))
    (after : load (some new) = .ok (reread second))
    (cut : ∀ count < new.length, ∃ error, load (some (new.take count)) = .error error)
    (stop : WriteEnd) {one other : β} :
    ReturnsEither (load (stop.leaves (some old) new)) one other ↔
      ∃ kept, stop.kept first second new.length = some kept ∧
        (reread kept = one ∨ reread kept = other) := by
  apply returnsEither_iff_gives (fun contents result => reread contents = result) _ _ cut
  · intro result
    rw [before, Except.ok.injEq]
  · intro result
    rw [after, Except.ok.injEq]

end

namespace Comms

/-- The file after a `Save` that may refuse the state, or be stopped. -/
def Store.leaves (stop : WriteEnd) (old : Bytes) : Except Message Bytes → Option Bytes
  | .error _ => some old
  | .ok new => stop.leaves (some old) new

/-- Which of two states the file then holds in full. -/
def Store.kept (stop : WriteEnd) (old new : State) : Except Message Bytes → Option State
  | .error _ => some old
  | .ok file => stop.kept old new file.length

/-- After a crash the store is the old one or the new one exactly where the write has kept one of them
in full. -/
theorem Store.returnsEither_iff {aead : Aead} {sorter : SliceSort} {earlier nonce : Nonce}
    {before now later : Int64} {defaultRole : DeviceRole} {old new : State} {file : Bytes}
    (saved : Store.save aead sorter earlier before (some old) = .ok file) (stop : WriteEnd)
    (refuses : aead.RefusesCut nonce (marshal State.codec (new.prune sorter now))) :
    ReturnsEither
        (Store.load aead defaultRole later
          (Store.leaves stop file (Store.save aead sorter nonce now (some new))))
        (old.prune sorter before) (new.prune sorter now) ↔
      ∃ kept, Store.kept stop (old.prune sorter before) (new.prune sorter now)
          (Store.save aead sorter nonce now (some new)) = some kept ∧
        (kept.ToldApart ∧ kept.reloaded = old.prune sorter before ∨
          kept.ToldApart ∧ kept.reloaded = new.prune sorter now) := by
  cases attempt : Store.save aead sorter nonce now (some new) with
  | error _ => simp [Store.leaves, Store.kept, ReturnsEither, Store.load_save saved]
  | ok written =>
    let gives (state loaded : State) : Prop := state.ToldApart ∧ state.reloaded = loaded
    apply returnsEither_iff_gives gives
    · exact fun _ => Store.load_save saved
    · exact fun _ => Store.load_save attempt
    · exact fun _ cut => Store.load_cut attempt refuses cut

end Comms

/-! ## An AEAD to compute with -/

/-- Each byte behind a mark, and a mark at the end. -/
def marked : Bytes → Bytes
  | [] => [0]
  | byte :: rest => 1 :: byte :: marked rest

def unmarked : Bytes → Option Bytes
  | [0] => some []
  | 1 :: byte :: rest => (unmarked rest).map (byte :: ·)
  | _ => none

theorem unmarked_marked (text : Bytes) : unmarked (marked text) = some text := by
  induction text with
  | nil => rfl
  | cons byte rest ih => rw [marked, unmarked, ih, Option.map_some]

/-- No part of a marked text is a marked text. -/
theorem unmarked_take {text : Bytes} {n : ℕ} (cut : n < (marked text).length) :
    unmarked ((marked text).take n) = none := by
  induction text generalizing n with
  | nil =>
    obtain rfl : n = 0 := Nat.lt_one_iff.mp cut
    rfl
  | cons byte rest ih =>
    rcases n with _ | _ | n
    · rfl
    · rfl
    · rw [marked, List.take_succ_cons, List.take_succ_cons, unmarked, ih (by simpa [marked] using cut),
        Option.map_none]

/-- Sealing that shows the key and opens nothing under another one. -/
def taggedAead (key : Bytes) : Aead where
  gcmSeal _ plaintext := key ++ marked plaintext
  gcmOpen _ ciphertext :=
    if hasPrefix ciphertext key then unmarked (ciphertext.drop key.length) else none
  opens _ plaintext := by simp [hasPrefix, unmarked_marked]

/-- A cipher that marks its texts refuses every part of one. -/
theorem taggedAead_refusesCut (key : Bytes) (nonce : Nonce) (plaintext : Bytes) :
    (taggedAead key).RefusesCut nonce plaintext := by
  intro n cut
  simp only [taggedAead, List.length_append] at cut ⊢
  split_ifs with tagged
  · have long := (of_decide_eq_true tagged).length_le
    rw [List.length_take, List.length_append] at long
    rw [List.take_append, List.take_of_length_le (by omega), List.drop_left]
    exact unmarked_take (by omega)
  · rfl

def digitKey : MasterKey := ⟨lit "0123456789abcdef0123456789abcdef", by decide⟩

def keyAead : Aead := taggedAead digitKey.val

/-- A communication state with one imported bundle. -/
def talkingState (role : Comms.DeviceRole) : Comms.State :=
  { Comms.newState role 900 with
    bundleHistory := some [{ bundleID := lit "b1", sourceApp := lit "signal", receivedAt := 950 }] }

def talkingFile (aead : Aead) : Bytes :=
  sealFile aead Comms.State.codec zeroNonce ((talkingState Comms.roleInside).prune .stable 1000)

/-- This state can be saved. -/
theorem talkingState_saved (aead : Aead) :
    Comms.Store.save aead .stable zeroNonce 1000 (some (talkingState Comms.roleInside)) =
      .ok (talkingFile aead) :=
  Comms.Store.save_eq_ok.mpr ⟨_, rfl, Comms.State.validate_eq_ok.mp rfl, rfl⟩

/-! ## The four stores -/

/-- What a stopped `Save` leaves is loaded as the old or the new contents exactly if one of them is
there in full and JSON reads it back as one of them. -/
theorem stoppedSaves_iff (aead : Aead) (earlier nonce : Nonce) (stop : WriteEnd) :
    (∀ old new : Option (List Profile),
      aead.RefusesCut nonce (marshal (.slice Profile.codec {}) new) →
      (ReturnsEither
          (Store.load aead
            (stop.leaves (some (Store.save aead earlier old)) (Store.save aead nonce new)))
          (old.getD []) (new.getD []) ↔
        ∃ kept, stop.kept old new (Store.save aead nonce new).length = some kept ∧
          ((kept.getD []).map Profile.reloaded = old.getD [] ∨
            (kept.getD []).map Profile.reloaded = new.getD []))) ∧
    (∀ old new : Map GoString GoString,
      aead.RefusesCut nonce (marshal (.map .string []) new) →
      (ReturnsEither
          (TemplateStore.load aead
            (stop.leaves (some (TemplateStore.save aead earlier old))
              (TemplateStore.save aead nonce new)))
          old new ↔
        ∃ kept, stop.kept old new (TemplateStore.save aead nonce new).length = some kept ∧
          (reloadedTemplates kept = old ∨ reloadedTemplates kept = new))) ∧
    (∀ old new : AdaptiveState,
      aead.RefusesCut nonce (marshal AdaptiveStateDisk.codec new.snapshotDisk) →
      (ReturnsEither
          (AdaptiveStore.load aead
            (stop.leaves (some (AdaptiveStore.save aead earlier old))
              (AdaptiveStore.save aead nonce new)))
          old new ↔
        ∃ kept, stop.kept old new (AdaptiveStore.save aead nonce new).length = some kept ∧
          (kept.reloaded = old ∨ kept.reloaded = new))) ∧
    ∀ (sorter : SliceSort) (before now later : Int64) (role : Comms.DeviceRole)
      (old new : Comms.State) (file : Bytes),
      Comms.Store.save aead sorter earlier before (some old) = .ok file →
      aead.RefusesCut nonce (marshal Comms.State.codec (new.prune sorter now)) →
      (ReturnsEither
          (Comms.Store.load aead role later
            (Comms.Store.leaves stop file (Comms.Store.save aead sorter nonce now (some new))))
          (old.prune sorter before) (new.prune sorter now) ↔
        ∃ kept, Comms.Store.kept stop (old.prune sorter before) (new.prune sorter now)
            (Comms.Store.save aead sorter nonce now (some new)) = some kept ∧
          (kept.ToldApart ∧ kept.reloaded = old.prune sorter before ∨
            kept.ToldApart ∧ kept.reloaded = new.prune sorter now)) := by
  refine ⟨fun old new refuses => ?_, fun old new refuses => ?_, fun old new refuses => ?_,
    fun _ _ _ _ _ _ _ _ saved refuses => Comms.Store.returnsEither_iff saved stop refuses⟩
  · apply returnsEither_iff
    · exact Store.load_save_reloaded aead earlier old
    · exact Store.load_save_reloaded aead nonce new
    · exact fun _ cut => Store.load_cut refuses cut
  · apply returnsEither_iff
    · exact TemplateStore.load_save_reloaded aead earlier old
    · exact TemplateStore.load_save_reloaded aead nonce new
    · exact fun _ cut => TemplateStore.load_cut refuses cut
  · apply returnsEither_iff
    · exact AdaptiveStore.load_save aead earlier old
    · exact AdaptiveStore.load_save aead nonce new
    · exact fun _ cut => AdaptiveStore.load_cut refuses cut

/-- Before the truncation every store still has its old contents. -/
theorem untouchedStores_return :
    ReturnsEither
        (Store.load keyAead
          (WriteEnd.leaves (some (Store.save keyAead zeroNonce (some [{ id := lit "p1" }])))
            (Store.save keyAead zeroNonce (some [{ id := lit "p2" }])) .untouched))
        [{ id := lit "p1" }] [{ id := lit "p2" }] ∧
    ReturnsEither
        (TemplateStore.load keyAead
          (WriteEnd.leaves
            (some (TemplateStore.save keyAead zeroNonce ((∅ : Map _ _).insert (lit "t") (lit "a"))))
            (TemplateStore.save keyAead zeroNonce ∅) .untouched))
        ((∅ : Map _ _).insert (lit "t") (lit "a")) ∅ ∧
    ReturnsEither
        (AdaptiveStore.load keyAead
          (WriteEnd.leaves (some (AdaptiveStore.save keyAead zeroNonce (newAdaptiveState 80)))
            (AdaptiveStore.save keyAead zeroNonce (newAdaptiveState 90)) .untouched))
        (newAdaptiveState 80) (newAdaptiveState 90) ∧
    ReturnsEither
        (Comms.Store.load keyAead Comms.roleInside 2000
          (Comms.Store.leaves .untouched (talkingFile keyAead)
            (Comms.Store.save keyAead .stable zeroNonce 1000 (some (talkingState Comms.roleOutside)))))
        ((talkingState Comms.roleInside).prune .stable 1000)
        ((talkingState Comms.roleOutside).prune .stable 1000) := by
  obtain ⟨profiles, templates, adaptive, comms⟩ :=
    stoppedSaves_iff keyAead zeroNonce zeroNonce .untouched
  refine ⟨?_, ?_, ?_, ?_⟩
  · apply (profiles _ _ (taggedAead_refusesCut _ _ _)).mpr
    exact ⟨_, rfl, .inl (by decide)⟩
  · apply (templates _ _ (taggedAead_refusesCut _ _ _)).mpr
    exact ⟨_, rfl, .inl (by decide)⟩
  · apply (adaptive _ _ (taggedAead_refusesCut _ _ _)).mpr
    exact ⟨_, rfl, .inl (by decide)⟩
  · apply (comms _ _ _ _ _ _ _ _ (talkingState_saved keyAead) (taggedAead_refusesCut _ _ _)).mpr
    exact ⟨(talkingState Comms.roleInside).prune .stable 1000, rfl,
      .inl ⟨by decide, by decide⟩⟩

/-- An empty file is neither the old contents nor the new ones to any of the stores. -/
theorem emptiedStores_lost :
    ¬ ReturnsEither
        (Store.load keyAead
          (WriteEnd.leaves (some (Store.save keyAead zeroNonce (some [{ id := lit "p1" }])))
            (Store.save keyAead zeroNonce (some [{ id := lit "p2" }])) (.written 0)))
        [{ id := lit "p1" }] [{ id := lit "p2" }] ∧
    ¬ ReturnsEither
        (TemplateStore.load keyAead
          (WriteEnd.leaves
            (some (TemplateStore.save keyAead zeroNonce ((∅ : Map _ _).insert (lit "t") (lit "a"))))
            (TemplateStore.save keyAead zeroNonce ∅) (.written 0)))
        ((∅ : Map _ _).insert (lit "t") (lit "a")) ∅ ∧
    ¬ ReturnsEither
        (AdaptiveStore.load keyAead
          (WriteEnd.leaves (some (AdaptiveStore.save keyAead zeroNonce (newAdaptiveState 80)))
            (AdaptiveStore.save keyAead zeroNonce (newAdaptiveState 90)) (.written 0)))
        (newAdaptiveState 80) (newAdaptiveState 90) ∧
    ¬ ReturnsEither
        (Comms.Store.load keyAead Comms.roleInside 2000
          (Comms.Store.leaves (.written 0) (talkingFile keyAead)
            (Comms.Store.save keyAead .stable zeroNonce 1000 (some (talkingState Comms.roleOutside)))))
        ((talkingState Comms.roleInside).prune .stable 1000)
        ((talkingState Comms.roleOutside).prune .stable 1000) := by
  have lost {ε α : Type} {error : ε} {old new : α} : ¬ ReturnsEither (.error error) old new := by
    rintro (back | back)
    · cases back
    · cases back
  exact ⟨lost, lost, lost, lost⟩

end ShadowNet
