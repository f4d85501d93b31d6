import ShadowNet.Inside.Decision
import ShadowNet.Js.Collections
import ShadowNet.Js.String

/-! # The events on the dashboard

The dashboard gets runtime events in a snapshot and over a stream, so that some come to it twice. It
tells them apart by their timestamp, type and message, and leaves those of one second in the order in
which they come in.
-/

namespace ShadowNet.Website

open Js

variable {M : Type}

/-! ## Merging -/

/-- An event as the runtime API sends it. Its timestamp is a whole number of seconds, which a number
holds exactly. -/
structure RuntimeEvent (M : Type) where
  timestamp : ℤ
  type : JsString
  message : JsString
  metadata : Option M
deriving DecidableEq

def RuntimeEvent.key (ev : RuntimeEvent M) : JsString :=
  number ev.timestamp ++ js "-" ++ ev.type ++ js "-" ++ ev.message

def mergeEvents (prev incoming : List (RuntimeEvent M)) : List (RuntimeEvent M) :=
  let map := (incoming ++ prev).foldl (Map.setNew RuntimeEvent.key) Map.empty
  let merged := sort (fun a b => b.timestamp - a.timestamp) map.values
  merged.take 120

/-- What the dashboard shows after some batches. -/
def mergeBatches (batches : List (List (RuntimeEvent M))) : List (RuntimeEvent M) :=
  batches.foldl mergeEvents []

/-- The events of one second. -/
def ofSecond (t : ℤ) (events : List (RuntimeEvent M)) : List (RuntimeEvent M) :=
  events.filter fun ev => ev.timestamp = t

/-! ## What merging is to do -/

structure LosesNothing (batches : List (List (RuntimeEvent M))) : Prop where
  kept : ∀ ev, ev ∈ mergeBatches batches ↔ ev ∈ batches.flatten
  once : (mergeBatches batches).Nodup
  descending : (mergeBatches batches).Pairwise fun above below => below.timestamp ≤ above.timestamp
  again : ∀ batch ∈ batches, mergeEvents (mergeBatches batches) batch = mergeBatches batches

/-- The type and the message of an event, in one text. -/
def RuntimeEvent.label (ev : RuntimeEvent M) : JsString := ev.type ++ js "-" ++ ev.message

/-- No two events differ in their metadata only, or in where the type ends in the label. -/
def Apart (batches : List (List (RuntimeEvent M))) : Prop :=
  ∀ first ∈ batches.flatten, ∀ other ∈ batches.flatten,
    first.timestamp = other.timestamp → first.label = other.label → first = other

/-- Of any two batches, one begins each second with what the other has of that second. -/
def Aligned (batches : List (List (RuntimeEvent M))) : Prop :=
  ∀ first ∈ batches, ∀ other ∈ batches, ∀ t,
    ofSecond t first <+: ofSecond t other ∨ ofSecond t other <+: ofSecond t first

/-! ## One batch -/

/-- Two events have one key exactly if they agree in time and label. -/
theorem key_eq_iff {first other : RuntimeEvent M} : first.key = other.key ↔
    first.timestamp = other.timestamp ∧ first.label = other.label := by
  have shape (ev : RuntimeEvent M) : ev.key = number ev.timestamp ++ 0x2D :: ev.label := by
    rw [RuntimeEvent.key, RuntimeEvent.label]
    simp [show js "-" = [0x2D] by decide]
  rw [shape, shape]
  exact ⟨number_dash_inj, fun ⟨time, label⟩ => by rw [time, label]⟩

theorem mergeEvents_eq (prev incoming : List (RuntimeEvent M)) : mergeEvents prev incoming =
    (sort (fun a b => b.timestamp - a.timestamp)
      (firsts RuntimeEvent.key (incoming ++ prev))).take 120 := by
  rw [mergeEvents, foldl_setNew]
  simp [Map.empty, Map.keys, Map.values]

theorem nodup_mergeEvents (prev incoming : List (RuntimeEvent M)) :
    ((mergeEvents prev incoming).map RuntimeEvent.key).Nodup := by
  have sorted := (sort_perm (fun a b : RuntimeEvent M => b.timestamp - a.timestamp)
    (firsts RuntimeEvent.key (incoming ++ prev))).map RuntimeEvent.key
  rw [mergeEvents_eq]
  exact (sorted.nodup_iff.mpr (nodup_firsts _)).sublist ((List.take_sublist ..).map _)

theorem mem_mergeEvents {prev incoming : List (RuntimeEvent M)} {ev : RuntimeEvent M}
    (shown : ev ∈ mergeEvents prev incoming) : ev ∈ incoming ∨ ev ∈ prev := by
  rw [mergeEvents_eq] at shown
  have sorted := (sort_perm _ _).mem_iff.mp (List.mem_of_mem_take shown)
  exact List.mem_append.mp ((firsts_sublist _).subset sorted)

theorem descending_mergeEvents (prev incoming : List (RuntimeEvent M)) :
    (mergeEvents prev incoming).Pairwise fun above below => below.timestamp ≤ above.timestamp := by
  rw [mergeEvents_eq]
  exact (sort_descending (fun ev : RuntimeEvent M => ev.timestamp) _).sublist (List.take_sublist ..)

/-- As long as no more than 120 keys come together, none is cut off. -/
theorem mergeEvents_of_few {prev incoming : List (RuntimeEvent M)}
    (few : (firsts RuntimeEvent.key (incoming ++ prev)).length ≤ 120) :
    (mergeEvents prev incoming).Perm (firsts RuntimeEvent.key (incoming ++ prev)) ∧
      ∀ t, ofSecond t (mergeEvents prev incoming) =
        firsts RuntimeEvent.key (ofSecond t incoming ++ ofSecond t prev) := by
  have whole : mergeEvents prev incoming = sort (fun a b => b.timestamp - a.timestamp)
      (firsts RuntimeEvent.key (incoming ++ prev)) := by
    rw [mergeEvents_eq, List.take_of_length_le]
    rwa [(sort_perm _ _).length_eq]
  rw [whole]
  refine ⟨sort_perm _ _, fun t => ?_⟩
  rw [ofSecond, filter_sort (fun ev : RuntimeEvent M => ev.timestamp), filter_firsts, List.filter_append]
  · rfl
  · intro first other same
    rw [(key_eq_iff.mp same).1]

/-! ## All batches -/

theorem mergeBatches_append (done : List (List (RuntimeEvent M))) (batch : List (RuntimeEvent M)) :
    mergeBatches (done ++ [batch]) = mergeEvents (mergeBatches done) batch := by
  rw [mergeBatches, List.foldl_append]
  rfl

theorem nodup_mergeBatches (batches : List (List (RuntimeEvent M))) :
    ((mergeBatches batches).map RuntimeEvent.key).Nodup := by
  induction batches using List.reverseRecOn with
  | nil => exact List.nodup_nil
  | append_singleton done batch _ =>
    rw [mergeBatches_append]
    exact nodup_mergeEvents _ _

theorem descending_mergeBatches (batches : List (List (RuntimeEvent M))) :
    (mergeBatches batches).Pairwise fun above below => below.timestamp ≤ above.timestamp := by
  induction batches using List.reverseRecOn with
  | nil => exact List.Pairwise.nil
  | append_singleton done batch _ =>
    rw [mergeBatches_append]
    exact descending_mergeEvents _ _

theorem mergeBatches_subset (batches : List (List (RuntimeEvent M))) :
    mergeBatches batches ⊆ batches.flatten := by
  induction batches using List.reverseRecOn with
  | nil => exact List.Subset.refl _
  | append_singleton done batch ih =>
    intro ev shown
    rw [mergeBatches_append] at shown
    rw [List.flatten_append, List.mem_append]
    rcases mem_mergeEvents shown with new | old
    · exact .inr (by simpa using new)
    · exact .inl (ih old)

/-- Two events of one key are never both shown. -/
theorem LosesNothing.apart {batches : List (List (RuntimeEvent M))} (loses : LosesNothing batches) :
    Apart batches := by
  intro first one other two time label
  exact List.inj_on_of_nodup_map (nodup_mergeBatches batches) ((loses.kept first).mpr one)
    ((loses.kept other).mpr two) (key_eq_iff.mpr ⟨time, label⟩)

section

variable {all : List (RuntimeEvent M)}
  (apart : ∀ first ∈ all, ∀ other ∈ all, first.key = other.key → first = other)

include apart

theorem distinct_keys {batch : List (RuntimeEvent M)} (within : batch ⊆ all) (nodup : batch.Nodup) :
    (batch.map RuntimeEvent.key).Nodup :=
  nodup.map_on fun first one other two same => apart first (within one) other (within two) same

variable (room : ∀ items ⊆ all, (firsts RuntimeEvent.key items).length ≤ 120)

include room

/-- Nothing is lost on the way. -/
theorem subset_mergeBatches {done : List (List (RuntimeEvent M))} (within : done.flatten ⊆ all) :
    done.flatten ⊆ mergeBatches done := by
  induction done using List.reverseRecOn with
  | nil => exact List.Subset.refl _
  | append_singleton done batch ih =>
    rw [List.flatten_append, List.flatten_singleton] at within ⊢
    obtain ⟨before, new⟩ := List.append_subset.mp within
    have together : batch ++ mergeBatches done ⊆ all :=
      List.append_subset.mpr ⟨new, List.Subset.trans (mergeBatches_subset done) before⟩
    intro ev member
    rw [mergeBatches_append, (mergeEvents_of_few (room _ together)).1.mem_iff]
    have known : ev ∈ batch ++ mergeBatches done := by
      rcases List.mem_append.mp member with old | own
      · exact List.mem_append_right _ (ih before old)
      · exact List.mem_append_left _ own
    obtain ⟨first, kept, same⟩ := @exists_first _ _ _ RuntimeEvent.key _ _ known
    rw [← apart first (together ((firsts_sublist _).subset kept)) ev (within member) same]
    exact kept

/-- Each second is shown as the batch has it that has the most of it. -/
theorem ofSecond_mergeBatches {done : List (List (RuntimeEvent M))} (within : done.flatten ⊆ all)
    (nodup : ∀ batch ∈ done, batch.Nodup) (aligned : Aligned done) (t : ℤ) :
    (∀ batch ∈ done, ofSecond t batch <+: ofSecond t (mergeBatches done)) ∧
      (ofSecond t (mergeBatches done) = [] ∨
        ∃ batch ∈ done, ofSecond t (mergeBatches done) = ofSecond t batch) := by
  induction done using List.reverseRecOn with
  | nil => exact ⟨nofun, .inl rfl⟩
  | append_singleton done batch ih =>
    rw [List.flatten_append, List.flatten_singleton] at within
    obtain ⟨before, new⟩ := List.append_subset.mp within
    have together : batch ++ mergeBatches done ⊆ all :=
      List.append_subset.mpr ⟨new, List.Subset.trans (mergeBatches_subset done) before⟩
    obtain ⟨fronts, longest⟩ := ih before
      (fun earlier member => nodup earlier (List.mem_append_left _ member))
      fun first one other two => aligned first (List.mem_append_left _ one) other
        (List.mem_append_left _ two)
    have last : batch ∈ done ++ [batch] := List.mem_append_right _ (List.mem_singleton_self _)
    have own : ((ofSecond t batch).map RuntimeEvent.key).Nodup :=
      (distinct_keys apart new (nodup batch last)).sublist (List.filter_sublist.map _)
    have old : ((ofSecond t (mergeBatches done)).map RuntimeEvent.key).Nodup :=
      (nodup_mergeBatches done).sublist (List.filter_sublist.map _)
    rw [mergeBatches_append, (mergeEvents_of_few (room _ together)).2]
    -- What has been shown of the second is one of the batches, so that the new one compares with it.
    have compare : ofSecond t batch <+: ofSecond t (mergeBatches done) ∨
        ofSecond t (mergeBatches done) <+: ofSecond t batch := by
      rcases longest with empty | ⟨earlier, member, same⟩
      · rw [empty]
        exact .inr (List.nil_prefix)
      · rw [same]
        exact aligned batch last earlier (List.mem_append_left _ member) t
    rcases compare with shorter | longer
    · rw [firsts_append_of_front shorter old]
      refine ⟨fun earlier member => ?_, ?_⟩
      · rcases List.mem_append.mp member with known | latest
        · exact fronts earlier known
        · rwa [List.mem_singleton.mp latest]
      · rcases longest with empty | ⟨earlier, member, same⟩
        · exact .inl empty
        · exact .inr ⟨earlier, List.mem_append_left _ member, same⟩
    · rw [firsts_append_of_subset longer.subset own]
      refine ⟨fun earlier member => ?_, .inr ⟨batch, last, rfl⟩⟩
      rcases List.mem_append.mp member with known | latest
      · exact (fronts earlier known).trans longer
      · rw [List.mem_singleton.mp latest]

end

theorem room_of_few {events all : List (RuntimeEvent M)} (few : events.length ≤ 120)
    (drawn : all ⊆ events) : ∀ items ⊆ all, (firsts RuntimeEvent.key items).length ≤ 120 := by
  intro items within
  have own : firsts RuntimeEvent.key items ⊆ events :=
    List.Subset.trans (firsts_sublist items).subset (List.Subset.trans within drawn)
  exact ((nodup_firsts items).of_map _ |>.subperm own).length_le.trans few

/-- Merging loses nothing exactly when no two events look the same, and the batches agree on the
order of each second. -/
theorem mergeEvents_losesNothing_iff (events : List (RuntimeEvent M)) (few : events.length ≤ 120)
    (batches : List (List (RuntimeEvent M))) (drawn : ∀ batch ∈ batches, batch ⊆ events)
    (nodup : ∀ batch ∈ batches, batch.Nodup) :
    LosesNothing batches ↔ Apart batches ∧ Aligned batches := by
  have inside {batch : List (RuntimeEvent M)} (member : batch ∈ batches) : batch ⊆ batches.flatten :=
    fun ev own => List.mem_flatten.mpr ⟨batch, member, own⟩
  have room := room_of_few few (show batches.flatten ⊆ events from fun ev member => by
    obtain ⟨batch, listed, own⟩ := List.mem_flatten.mp member
    exact drawn batch listed own)
  have seconds {batch : List (RuntimeEvent M)} (member : batch ∈ batches) (t : ℤ) :
      ofSecond t (mergeEvents (mergeBatches batches) batch) =
        firsts RuntimeEvent.key (ofSecond t batch ++ ofSecond t (mergeBatches batches)) :=
    (mergeEvents_of_few (room _
      (List.append_subset.mpr ⟨inside member, mergeBatches_subset batches⟩))).2 t
  have byKey (apart : Apart batches) : ∀ first ∈ batches.flatten, ∀ other ∈ batches.flatten,
      first.key = other.key → first = other := by
    intro first one other two same
    obtain ⟨time, label⟩ := key_eq_iff.mp same
    exact apart first one other two time label
  constructor
  · intro loses
    refine ⟨loses.apart, fun first one other two t => ?_⟩
    have front {batch : List (RuntimeEvent M)} (member : batch ∈ batches) :
        ofSecond t batch <+: ofSecond t (mergeBatches batches) := by
      have own : ((ofSecond t batch).map RuntimeEvent.key).Nodup :=
        (distinct_keys (byKey loses.apart) (inside member) (nodup batch member)).sublist
          (List.filter_sublist.map _)
      have same := seconds member t
      have first := @firsts_prefix_append _ _ _ RuntimeEvent.key (ofSecond t batch)
        (ofSecond t (mergeBatches batches))
      rw [loses.again batch member] at same
      rwa [firsts_of_nodup own, ← same] at first
    exact List.prefix_or_prefix_of_prefix (front one) (front two)
  · rintro ⟨apart, aligned⟩
    refine ⟨fun ev => ⟨fun shown => mergeBatches_subset batches shown, fun member =>
      subset_mergeBatches (byKey apart) room (List.Subset.refl _) member⟩,
      (nodup_mergeBatches batches).of_map _, descending_mergeBatches batches, fun batch member => ?_⟩
    refine eq_of_levels (fun ev : RuntimeEvent M => ev.timestamp) (descending_mergeEvents _ _)
      (descending_mergeBatches batches) fun t => ?_
    obtain ⟨fronts, -⟩ := ofSecond_mergeBatches (byKey apart) room (List.Subset.refl _) nodup aligned t
    exact (seconds member t).trans (firsts_append_of_front (fronts batch member)
      ((nodup_mergeBatches batches).sublist (List.filter_sublist.map _)))

/-- Two snapshots, the second of which has one more event, and an event of the stream. -/
def agreeingBatches : List (List (RuntimeEvent Unit)) :=
  [[⟨1, js "A", js "m", none⟩], [⟨1, js "A", js "m", none⟩, ⟨1, js "B", js "m", none⟩],
    [⟨2, js "A", js "m", none⟩]]

theorem mergeEvents_losesNothing_agreeing : LosesNothing agreeingBatches := by
  refine (mergeEvents_losesNothing_iff agreeingBatches.flatten (by decide) agreeingBatches
    (fun batch member ev own => List.mem_flatten.mpr ⟨batch, member, own⟩) (by decide)).mpr
      ⟨by unfold Apart; decide, fun first one other two t => ?_⟩
  have front : ∀ first ∈ agreeingBatches, ∀ other ∈ agreeingBatches, first <+: other ∨ other <+: first ∨
      ∀ ev ∈ first, ∀ ev' ∈ other, ev.timestamp ≠ ev'.timestamp := by decide
  rcases front first one other two with shorter | longer | apart
  · exact .inl (shorter.filter _)
  · exact .inr (longer.filter _)
  · by_cases empty : ofSecond t first = []
    · exact .inl (empty ▸ List.nil_prefix)
    · obtain ⟨ev, own⟩ := List.exists_mem_of_ne_nil _ empty
      obtain ⟨member, time⟩ := List.mem_filter.mp own
      have none : ofSecond t other = [] := List.filter_eq_nil_iff.mpr fun ev' member' time' =>
        apart ev member ev' member' ((of_decide_eq_true time).trans (of_decide_eq_true time').symm)
      exact .inr (none ▸ List.nil_prefix)

/-! ## What the agent emits -/

/-- The CONNECTION_FAIL event of a start of sing-box that failed. -/
def connectionFail (now : Int64) (profile reason : Go.GoString) (attempt : Int64) :
    Inside.RuntimeEvent :=
  Inside.addEvent now (Go.lit "CONNECTION_FAIL") (Go.lit "sing-box start failed")
    ((∅ : Go.Map Go.GoString Inside.MetaValue).insertAll
      [(Go.lit "profile", .string profile), (Go.lit "reason", .string reason),
        (Go.lit "attempt", .int attempt)])

/-- A Go string as JSON carries it over. -/
def utf16 (s : Go.GoString) : JsString := (Go.runes s).flatMap fun sym => encodePoint sym.seen.toNat

/-- An event as the dashboard gets it; empty metadata are left out. -/
def received (ev : Inside.RuntimeEvent) : RuntimeEvent (Go.Map Go.GoString Inside.MetaValue) where
  timestamp := ev.timestamp.toInt
  type := utf16 ev.type
  message := utf16 ev.message
  metadata := if ev.metadata.entries.isEmpty then none else some ev.metadata

/-- Events of one second, type and message look the same, whatever their metadata. -/
theorem key_received {ev ev' : Inside.RuntimeEvent} (time : ev.timestamp = ev'.timestamp)
    (typ : ev.type = ev'.type) (msg : ev.message = ev'.message) :
    (received ev).timestamp = (received ev').timestamp ∧ (received ev).label = (received ev').label := by
  simp only [received, RuntimeEvent.label, time, typ, msg, and_self]

theorem attempt_connectionFail {now : Int64} {profile reason : Go.GoString} {attempt : Int64}
    {made : Inside.MetaValue} : (Go.lit "attempt", made) ∈
      (connectionFail now profile reason attempt).metadata.entries ↔ made = .int attempt := by
  have visible : ¬ Inside.isHidden (Go.lit "attempt") = true := by decide
  have kept : Inside.sanitizeRuntimeValue (Go.lit "attempt") (.int attempt) = .int attempt := by
    rw [Inside.sanitizeRuntimeValue.eq_def, if_neg visible]
  have names : [Go.lit "profile", Go.lit "reason", Go.lit "attempt"].Nodup := by decide
  have distinct : ([(Go.lit "profile", Inside.MetaValue.string profile),
      (Go.lit "reason", .string reason), (Go.lit "attempt", .int attempt)].map Prod.fst).Nodup := names
  have given : (Go.lit "attempt", Inside.MetaValue.int attempt) ∈
      [(Go.lit "profile", Inside.MetaValue.string profile), (Go.lit "reason", .string reason),
        (Go.lit "attempt", .int attempt)] := by simp
  rw [connectionFail, Inside.mem_addEvent distinct]
  constructor
  · rintro ⟨value, member, rfl⟩
    have same := List.inj_on_of_nodup_map distinct member given rfl
    rw [(Prod.mk.inj same).2, kept]
  · rintro rfl
    exact ⟨_, given, kept.symm⟩

theorem received_connectionFail_ne {now now' : Int64} {profile profile' reason reason' : Go.GoString}
    {attempt attempt' : Int64} (differ : attempt ≠ attempt') :
    received (connectionFail now profile reason attempt) ≠
      received (connectionFail now' profile' reason' attempt') := by
  intro same
  have filled (now : Int64) (profile reason : Go.GoString) (attempt : Int64) :
      (received (connectionFail now profile reason attempt)).metadata =
        some (connectionFail now profile reason attempt).metadata := by
    have member := (@attempt_connectionFail now profile reason attempt _).mpr rfl
    rw [received]
    dsimp only
    rw [if_neg]
    intro empty
    rw [List.isEmpty_iff.mp empty] at member
    cases member
  have metadata := congrArg RuntimeEvent.metadata same
  rw [filled, filled] at metadata
  have member := (@attempt_connectionFail now profile reason attempt _).mpr rfl
  rw [Option.some.inj metadata, attempt_connectionFail] at member
  exact differ (Inside.MetaValue.int.inj member)

/-- Of two starts that fail within one second, the dashboard loses one. -/
theorem connectionFail_lost {now : Int64} {profile profile' reason reason' : Go.GoString}
    {attempt attempt' : Int64} (differ : attempt ≠ attempt') :
    ¬ LosesNothing [[received (connectionFail now profile reason attempt)],
      [received (connectionFail now profile' reason' attempt')]] := by
  intro loses
  obtain ⟨time, label⟩ := @key_received (connectionFail now profile reason attempt)
    (connectionFail now profile' reason' attempt') rfl rfl rfl
  exact received_connectionFail_ne differ (loses.apart _ (List.mem_cons_self ..) _
    (List.mem_cons_of_mem _ (List.mem_cons_self ..)) time label)

theorem mergeEvents_losesEvent :
    ¬ LosesNothing [[received (connectionFail 1700000000 (Go.lit "p1") (Go.lit "TIMEOUT") 1)],
      [received (connectionFail 1700000000 (Go.lit "p2") (Go.lit "TIMEOUT") 2)]] :=
  connectionFail_lost (by decide)

end ShadowNet.Website
