import ShadowNet.Js.RelativePath
import ShadowNet.Website.Docs

/-! # Links between the documents

`resolveHref` turns a relative link to a Markdown file into the address of a page. The addresses that it
makes lead back to the pages of the documents, in both languages.
-/

namespace ShadowNet.Website

open Js

/-! ## Addresses -/

/-- One segment in the loop of `resolveHref`. -/
def reduceSegment (acc : List JsString) (seg : JsString) : List JsString :=
  if seg = [0x2E] ∨ seg = [] then acc
  else if seg = [0x2E, 0x2E] then acc.dropLast
  else acc ++ [seg]

/-- `basePrefix` and `routeBase` are empty where they are not given. -/
def resolveHref (href : JsString) (baseSlug : List JsString) (basePrefix routeBase : JsString) :
    JsString :=
  let trimmed := trim href
  if js "http://" <+: trimmed ∨ js "https://" <+: trimmed ∨ [0x23] <+: trimmed ∨ [0x2F] <+: trimmed then
    trimmed
  else
    let withoutHash := (trimmed.splitOn 0x23).headD trimmed
    let hash := if 0x23 ∈ trimmed then 0x23 :: join [0x23] (trimmed.splitOn 0x23).tail else []
    if endsMd withoutHash then
      let rel := withoutHash.map fun head => if head = 0x5C then 0x2F else head
      let baseDir := join [0x2F] baseSlug.dropLast
      let joined := (if baseDir ≠ [] then baseDir ++ [0x2F] else []) ++ rel
      let normalized := join [0x2F] ((joined.splitOn 0x2F).foldl reduceSegment [])
      let withoutExt := stripMd normalized
      let before := if trim basePrefix ≠ [] then basePrefix else []
      let base := if trim routeBase ≠ [] then (trim routeBase).dropWhile (· = 0x2F) else js "docs"
      if withoutExt = js "index" then before ++ 0x2F :: base ++ hash
      else if js "/index" <:+ withoutExt then
        before ++ 0x2F :: base ++ 0x2F :: withoutExt.take (withoutExt.length - 6) ++ hash
      else before ++ 0x2F :: base ++ 0x2F :: withoutExt ++ hash
    else trimmed

/-! ## Where addresses lead -/

/-- What the site shows at an address. -/
inductive Visit where
  | docsIndex
  | docsAll
  | page (outcome : Outcome)
  | elsewhere

section

variable (compare : JsString → JsString → ℤ) (docsRoot : Entries)

/-- The page below `[lang]`. -/
def langPage (lang : JsString) (slug : List JsString) : Outcome :=
  let mappedSlug := if lang = js "fa" ∧ slug[0]? ≠ some (js "fa") then js "fa" :: slug else slug
  docPage compare docsRoot (0x2F :: lang) mappedSlug

/-- The pages of a directory of the site that are about documents. -/
def visitDocs (page : List JsString → Outcome) (slug : List JsString) : Visit :=
  if slug = [] then .docsIndex else if slug = [js "all"] then .docsAll else .page (page slug)

/-- The segments of an address, up to its fragment, choose the page. -/
def visit (href : JsString) : Visit :=
  match ((href.takeWhile (· ≠ 0x23)).splitOn 0x2F).filter (· ≠ []) with
  | first :: rest =>
      if first = js "docs" then visitDocs (docPage compare docsRoot []) rest
      else
        match rest with
        | second :: slug =>
            if second = js "docs" then visitDocs (langPage compare docsRoot first) slug else .elsewhere
        | [] => .elsewhere
  | [] => .elsewhere

end

/-! ## Names -/

/-- A unit that stands for itself in an address. -/
def isUnreserved (unit : UInt16) : Bool :=
  (0x30 ≤ unit && unit ≤ 0x39) || (0x41 ≤ unit && unit ≤ 0x5A) || (0x61 ≤ unit && unit ≤ 0x7A) ||
    unit == 0x2D || unit == 0x2E || unit == 0x5F || unit == 0x7E

structure Plain (name : JsString) : Prop where
  filled : name ≠ []
  unreserved : ∀ unit ∈ name, isUnreserved unit = true

theorem plain_of_all {name : JsString} (filled : name ≠ []) (all : name.all isUnreserved = true) :
    Plain name := ⟨filled, List.all_eq_true.mp all⟩

theorem Plain.not_mem {name : JsString} (plain : Plain name) {unit : UInt16}
    (reserved : isUnreserved unit = false) : unit ∉ name := by
  intro member
  rw [plain.unreserved unit member] at reserved
  cases reserved

theorem Plain.flat {name : JsString} (plain : Plain name) : 0x2F ∉ name := plain.not_mem rfl

/-- The ending of a Markdown file. -/
structure Ending (ending : JsString) : Prop where
  marks : ∃ m d, ending = [0x2E, m, d] ∧ (m = 0x6D ∨ m = 0x4D) ∧ (d = 0x64 ∨ d = 0x44)

/-- A name ends in `.md` in one of the spellings of it. -/
theorem endsMd_iff {name : JsString} :
    endsMd name = true ↔ ∃ stem ending, name = stem ++ ending ∧ Ending ending := by
  constructor
  · intro md
    unfold endsMd at md
    split at md
    · rename_i d m dot rest reversed
      simp only [Bool.and_eq_true, Bool.or_eq_true, beq_iff_eq] at md
      obtain ⟨⟨last, middle⟩, rfl⟩ := md
      refine ⟨rest.reverse, [0x2E, m, d], ?_, m, d, rfl, middle, last⟩
      rw [← List.reverse_reverse name, reversed]
      simp
    · cases md
  · rintro ⟨stem, ending, rfl, m, d, rfl, middle, last⟩
    simp [endsMd, middle, last]

theorem stripMd_append (stem : JsString) {ending : JsString} (ends : Ending ending) :
    stripMd (stem ++ ending) = stem := by
  rw [stripMd, if_pos (endsMd_iff.mpr ⟨stem, ending, rfl, ends⟩)]
  obtain ⟨m, d, rfl, -, -⟩ := ends
  simp [List.dropLast_append_of_ne_nil]

/-- What is behind the last name of a path is behind its text. -/
theorem join_concat (front : List JsString) (last ending : JsString) :
    join [0x2F] (front ++ [last ++ ending]) = join [0x2F] (front ++ [last]) ++ ending := by
  by_cases root : front = []
  · simp [root, join]
  · simp [join_append root]

theorem mem_under {unit : UInt16} {path : List JsString} (member : unit ∈ under path) :
    unit = 0x2F ∨ ∃ segment ∈ path, unit ∈ segment := by
  obtain ⟨segment, inside, here⟩ := List.mem_flatMap.mp member
  exact (List.mem_cons.mp here).imp_right fun own => ⟨segment, inside, own⟩

/-- A reserved unit other than the slash is not in the text of a path of plain names. -/
theorem reserved_notMem_under {path : List JsString} (plain : ∀ name ∈ path, Plain name)
    {unit : UInt16} (reserved : isUnreserved unit = false) (other : unit ≠ 0x2F) :
    unit ∉ under path := by
  intro member
  obtain slash | ⟨segment, inside, own⟩ := mem_under member
  · exact other slash
  · exact (plain segment inside).not_mem reserved own

theorem reserved_notMem_join {path : List JsString} (plain : ∀ name ∈ path, Plain name)
    {unit : UInt16} (reserved : isUnreserved unit = false) (other : unit ≠ 0x2F) :
    unit ∉ join [0x2F] path := by
  by_cases root : path = []
  · simp [root, join]
  · intro member
    apply reserved_notMem_under plain reserved other
    rw [under_eq_join root]
    exact List.mem_cons_of_mem _ member

/-- A path of plain names has no backslash to turn round. -/
theorem turned_join {path : List JsString} (plain : ∀ name ∈ path, Plain name) :
    ((join [0x2F] path).map fun head => if head = 0x5C then 0x2F else head) = join [0x2F] path := by
  conv_rhs => rw [← List.map_id (join [0x2F] path)]
  apply List.map_congr_left
  intro unit member
  rw [if_neg]
  · rfl
  · rintro rfl
    exact reserved_notMem_join plain (by decide) (by decide) member

/-- The slug of a file with a plain path: the path without the ending. -/
theorem slugOf_plain {path : List JsString} (plain : ∀ name ∈ path, Plain name) (shown : Shown path)
    (file : path ≠ []) : ∃ stem ending, path = path.dropLast ++ [stem ++ ending] ∧ Ending ending ∧
      Plain stem ∧ slugOf path = path.dropLast ++ [stem] := by
  obtain ⟨front, last, rfl⟩ := (List.eq_nil_or_concat path).resolve_left file
  rw [List.concat_eq_append] at *
  have md := shown.markdown
  rw [List.getLastD_concat] at md
  obtain ⟨stem, ending, rfl, ends⟩ := endsMd_iff.mp md
  have own := plain (stem ++ ending) (by simp)
  have filled : stem ≠ [] := by
    rintro rfl
    have visible := shown.visible ([] ++ ending) (by simp)
    obtain ⟨m, d, rfl, -, -⟩ := ends
    cases visible
  have named : Plain stem := ⟨filled, fun unit member => own.unreserved unit (by simp [member])⟩
  rw [List.dropLast_concat]
  refine ⟨stem, ending, rfl, ends, named, ?_⟩
  have flat : ∀ name ∈ front ++ [stem], 0x2F ∉ name := by
    intro name member
    obtain inside | last := List.mem_append.mp member
    · exact (plain name (List.mem_append_left _ inside)).flat
    · rw [List.mem_singleton.mp last]
      exact named.flat
  simp only [slugOf]
  rw [turned_join plain, join_concat, stripMd_append _ ends, splitOn_join (by simp) flat]
  apply List.filter_eq_self.mpr
  intro name member
  obtain inside | last := List.mem_append.mp member
  · simpa using (plain name (List.mem_append_left _ inside)).filled
  · simpa [List.mem_singleton.mp last] using filled

/-! ## What a link is turned into -/

/-- Following a relative path is what the loop does, as long as the path stays below the root. -/
theorem reduce_of_follow {dir segments target : List JsString} (filled : ∀ seg ∈ segments, seg ≠ [])
    (leads : follow dir segments = some target) : segments.foldl reduceSegment dir = target := by
  induction segments generalizing dir with
  | nil => exact Option.some.inj leads
  | cons seg rest ih =>
    obtain ⟨next, one, later⟩ := Option.bind_eq_some_iff.mp leads
    rw [List.foldl_cons]
    obtain ⟨own, others⟩ := List.forall_mem_cons.mp filled
    have same : reduceSegment dir seg = next := by
      unfold followOne at one
      unfold reduceSegment
      split_ifs at one with here up root
      · rw [if_pos (.inl here)]
        exact Option.some.inj one
      · rw [if_neg (not_or.mpr ⟨here, own⟩), if_pos up]
        exact Option.some.inj one
      · rw [if_neg (not_or.mpr ⟨here, own⟩), if_neg up]
        exact Option.some.inj one
    rw [same]
    exact ih others later

/-- Names that are not hidden are followed downwards. -/
theorem reduce_visible {dir start : List JsString} (filled : ∀ name ∈ dir, name ≠ [])
    (visible : ∀ name ∈ dir, isHidden name = false) : dir.foldl reduceSegment start = start ++ dir := by
  induction dir generalizing start with
  | nil => rw [List.foldl_nil, List.append_nil]
  | cons name rest ih =>
    obtain ⟨own, others⟩ := List.forall_mem_cons.mp filled
    obtain ⟨seen, seens⟩ := List.forall_mem_cons.mp visible
    have same : reduceSegment start name = start ++ [name] := by
      unfold reduceSegment
      rw [if_neg, if_neg]
      · rintro rfl
        cases seen
      · rintro (rfl | rfl)
        · cases seen
        · exact own rfl
    rw [List.foldl_cons, same, ih others seens, List.append_assoc, List.singleton_append]

/-- The slug under which a document is addressed. -/
def askedOf (slug : List JsString) : List JsString :=
  if slug.getLast? = some (js "index") then slug.dropLast else slug

/-- The three forms of an address are one. -/
theorem address_eq {slug : List JsString} (nonempty : slug ≠ []) (flat : ∀ name ∈ slug, 0x2F ∉ name)
    (before base hash : JsString) :
    (if join [0x2F] slug = js "index" then before ++ 0x2F :: base ++ hash
      else if js "/index" <:+ join [0x2F] slug then
        before ++ 0x2F :: base ++
          0x2F :: (join [0x2F] slug).take ((join [0x2F] slug).length - 6) ++ hash
      else before ++ 0x2F :: base ++ 0x2F :: join [0x2F] slug ++ hash) =
      before ++ 0x2F :: base ++ under (askedOf slug) ++ hash := by
  obtain ⟨front, last, rfl⟩ := (List.eq_nil_or_concat slug).resolve_left nonempty
  rw [List.concat_eq_append] at *
  have single : 0x2F ∉ last := flat last (by simp)
  have asked : askedOf (front ++ [last]) = if last = js "index" then front else front ++ [last] := by
    simp only [askedOf, List.getLast?_concat, List.dropLast_concat, Option.some_inj]
  have inner : js "/index" = 0x2F :: js "index" := by decide
  rw [asked, inner]
  by_cases root : front = []
  · have alone : join [0x2F] (front ++ [last]) = last := by simp [root, join]
    have outer : ¬ 0x2F :: js "index" <:+ last := by
      rintro ⟨outer, whole⟩
      apply single
      rw [← whole]
      simp
    rw [alone, if_neg outer, root]
    split_ifs with index
    · simp
    · simp
  · have deep : join [0x2F] (front ++ [last]) = join [0x2F] front ++ 0x2F :: last := by
      rw [join_append root, under_cons, under_nil, List.append_nil]
    have other : join [0x2F] (front ++ [last]) ≠ js "index" := by
      intro same
      have slash : 0x2F ∈ js "index" := by
        rw [← same, deep]
        simp
      exact absurd slash (by decide)
    rw [if_neg other, deep]
    by_cases index : last = js "index"
    · have suffix : 0x2F :: js "index" <:+ join [0x2F] front ++ 0x2F :: last :=
        ⟨_, by rw [index]⟩
      have size : (join [0x2F] front).length = (join [0x2F] front ++ 0x2F :: last).length - 6 := by
        rw [index, List.length_append]
        exact (Nat.add_sub_cancel _ 6).symm
      rw [if_pos suffix, if_pos index, under_eq_join root, List.take_left' size]
    · have suffix : ¬ 0x2F :: js "index" <:+ join [0x2F] front ++ 0x2F :: last := by
        rintro ⟨outer, whole⟩
        have split := splitOn_join nonempty flat
        rw [deep, ← whole, List.splitOn_append_cons_self,
          List.splitOn_eq_singleton (by decide : 0x2F ∉ js "index")] at split
        exact index (List.singleton_inj.mp (List.append_inj' split rfl).2).symm
      rw [if_neg suffix, if_neg index, under_append, under_eq_join root]
      simp

/-- A relative link to a Markdown file, with its fragment. -/
structure Link (segments : List JsString) (fragment : JsString) : Prop where
  plain : ∀ segment ∈ segments, Plain segment
  markdown : endsMd (segments.getLastD []) = true
  marked : fragment = [] ∨ ∃ rest, fragment = 0x23 :: rest
  trimmed : trim (join [0x2F] segments ++ fragment) = join [0x2F] segments ++ fragment

section

variable {segments : List JsString} {fragment : JsString}

theorem Link.segments_ne_nil (link : Link segments fragment) : segments ≠ [] := by
  rintro rfl
  cases link.markdown

theorem Link.endsMd_join (link : Link segments fragment) : endsMd (join [0x2F] segments) = true := by
  obtain ⟨front, last, rfl⟩ := (List.eq_nil_or_concat segments).resolve_left link.segments_ne_nil
  have md := link.markdown
  rw [List.concat_eq_append, List.getLastD_concat] at md
  obtain ⟨stem, ending, rfl, ends⟩ := endsMd_iff.mp md
  rw [List.concat_eq_append, join_concat]
  exact endsMd_iff.mpr ⟨_, ending, rfl, ends⟩

/-- The text of a link begins with none of the marks of another address. -/
theorem Link.relative (link : Link segments fragment) :
    ¬ (js "http://" <+: join [0x2F] segments ++ fragment ∨
      js "https://" <+: join [0x2F] segments ++ fragment ∨
      [0x23] <+: join [0x2F] segments ++ fragment ∨ [0x2F] <+: join [0x2F] segments ++ fragment) := by
  have clear (scheme : JsString) (colon : 0x3A ∈ scheme) (small : 0x64 ∉ scheme)
      (large : 0x44 ∉ scheme) : ¬ scheme <+: join [0x2F] segments ++ fragment := by
    intro starts
    obtain inside | outside :=
      List.prefix_or_prefix_of_prefix starts (List.prefix_append (join [0x2F] segments) fragment)
    · exact reserved_notMem_join link.plain (by decide) (by decide) (inside.subset colon)
    · obtain ⟨stem, ending, text, m, d, rfl, -, last⟩ := endsMd_iff.mp link.endsMd_join
      have member : d ∈ scheme := outside.subset (by rw [text]; simp)
      obtain rfl | rfl := last
      · exact small member
      · exact large member
  obtain ⟨first, rest, rfl⟩ := List.exists_cons_of_ne_nil link.segments_ne_nil
  have own := link.plain first (List.mem_cons_self ..)
  obtain ⟨head, others, rfl⟩ := List.exists_cons_of_ne_nil own.filled
  have unreserved := own.unreserved head (List.mem_cons_self ..)
  rintro (http | https | hash | slash)
  · exact clear _ (by decide) (by decide) (by decide) http
  · exact clear _ (by decide) (by decide) (by decide) https
  · rw [join_cons, List.cons_append, List.cons_append, List.cons_prefix_cons] at hash
    rw [← hash.1] at unreserved
    cases unreserved
  · rw [join_cons, List.cons_append, List.cons_append, List.cons_prefix_cons] at slash
    rw [← slash.1] at unreserved
    cases unreserved

/-- The fragment is split off and put back. -/
theorem split_fragment {text : JsString} (fragment : JsString) (clear : 0x23 ∉ text)
    (hash : fragment = [] ∨ ∃ rest, fragment = 0x23 :: rest) (default : JsString) :
    ((text ++ fragment).splitOn 0x23).headD default = text ∧
      (if 0x23 ∈ text ++ fragment then 0x23 :: join [0x23] ((text ++ fragment).splitOn 0x23).tail
        else []) = fragment := by
  obtain rfl | ⟨rest, rfl⟩ := hash
  · rw [List.append_nil, List.splitOn_eq_singleton clear, if_neg clear]
    exact ⟨rfl, rfl⟩
  · rw [List.splitOn_append_cons_self_of_not_mem clear, if_pos (by simp)]
    exact ⟨rfl, congrArg _ (List.intercalate_splitOn 0x23)⟩

/-- A link becomes the address of the slug of the file that it leads to. -/
theorem resolveHref_link (link : Link segments fragment) (slug : List JsString)
    {target : List JsString} (plain : ∀ name ∈ slug.dropLast, Plain name)
    (visible : ∀ name ∈ slug.dropLast, isHidden name = false)
    (leads : follow slug.dropLast segments = some target) (there : ∀ name ∈ target, Plain name)
    (shown : Shown target) (file : target ≠ []) (basePrefix : JsString) :
    resolveHref (join [0x2F] segments ++ fragment) slug basePrefix [] =
      (if trim basePrefix ≠ [] then basePrefix else []) ++ 0x2F :: js "docs" ++
        under (askedOf (slugOf target)) ++ fragment := by
  obtain ⟨text, hash⟩ := split_fragment fragment
    (reserved_notMem_join link.plain (by decide) (by decide)) link.marked
    (join [0x2F] segments ++ fragment)
  have joined : (if join [0x2F] slug.dropLast ≠ [] then join [0x2F] slug.dropLast ++ [0x2F] else []) ++
      join [0x2F] segments = join [0x2F] (slug.dropLast ++ segments) := by
    cases dir : slug.dropLast with
    | nil => rfl
    | cons first rest =>
      have filled : join [0x2F] (first :: rest) ≠ [] := by
        rw [join_cons]
        exact List.append_ne_nil_of_left_ne_nil (plain first (by simp [dir])).filled _
      rw [if_pos filled, join_append (List.cons_ne_nil _ _), under_eq_join link.segments_ne_nil,
        List.append_assoc, List.singleton_append]
  have reduced : (slug.dropLast ++ segments).foldl reduceSegment [] = target := by
    rw [List.foldl_append, reduce_visible (fun name member => (plain name member).filled) visible,
      List.nil_append]
    exact reduce_of_follow (fun seg member => (link.plain seg member).filled) leads
  obtain ⟨stem, ending, whole, ends, named, own⟩ := slugOf_plain there shown file
  have stripped : stripMd (join [0x2F] target) = join [0x2F] (slugOf target) := by
    rw [whole, join_concat, stripMd_append _ ends, ← whole, own]
  have route : (if trim ([] : JsString) ≠ [] then (trim []).dropWhile (· = 0x2F) else js "docs") =
      js "docs" := by
    decide
  simp only [resolveHref, link.trimmed, if_neg link.relative, text, link.endsMd_join, if_true,
    turned_join link.plain, joined, hash, route]
  rw [splitOn_join, reduced, stripped]
  · apply address_eq
    · rw [own]
      simp
    · intro name member
      rw [own] at member
      obtain inside | last := List.mem_append.mp member
      · exact (there name (List.dropLast_subset _ inside)).flat
      · rw [List.mem_singleton.mp last]
        exact named.flat
  · exact List.append_ne_nil_of_right_ne_nil _ link.segments_ne_nil
  · intro name member
    obtain inside | last := List.mem_append.mp member
    · exact (plain name inside).flat
    · exact (link.plain name last).flat

example : resolveHref (js "../outside/verification.md#keys") [js "user", js "safety"] [] [] =
    js "/docs/outside/verification#keys" := by decide

/-- An address of plain names is read back. -/
theorem segments_under {path : List JsString} (plain : ∀ name ∈ path, Plain name)
    (marked : fragment = [] ∨ ∃ rest, fragment = 0x23 :: rest) :
    (((under path ++ fragment).takeWhile (· ≠ 0x23)).splitOn 0x2F).filter (· ≠ []) = path := by
  have inside : ∀ unit ∈ under path, decide (unit ≠ 0x23) = true := by
    intro unit member
    apply decide_eq_true
    rintro rfl
    exact reserved_notMem_under plain (by decide) (by decide) member
  have none : fragment.takeWhile (· ≠ 0x23) = [] := by
    obtain rfl | ⟨rest, rfl⟩ := marked
    · rfl
    · exact List.takeWhile_cons_of_neg (by simp)
  rw [List.takeWhile_append_of_pos inside, none, List.append_nil,
    splitOn_under fun name member => (plain name member).flat, List.filter_cons_of_neg (by simp)]
  apply List.filter_eq_self.mpr
  intro name member
  exact decide_eq_true (plain name member).filled

end

/-! ## Where links lead -/

/-- The document has the slug that is asked for, or is the index of it. -/
def Names (doc : DocEntry) (asked : List JsString) : Prop :=
  keyOf doc.slug = keyOf asked ∨ keyOf doc.slug = keyOf (asked ++ [js "index"])

/-- No other file has the slug that is asked for, or is the index of it. -/
def Alone (docsRoot : Entries) (asked target : List JsString) : Prop :=
  ∀ other text, FileAt docsRoot other text → Shown other → Names (docEntry other text) asked →
    other = target

/-- A visit shows the document that is asked for, or the Persian version of it. The list of all documents
has a page of its own, and an old slug is redirected, as is one that is Persian twice on the Persian
site. -/
def Arrives (docsRoot : Entries) (basePrefix : JsString) (asked target : List JsString) : Visit → Prop
  | .docsIndex => asked = []
  | .docsAll => asked = [js "all"]
  | .page (.redirect _) =>
      tryLegacyRedirect asked ≠ none ∨ basePrefix = js "/fa" ∧ asked.take 2 = [js "fa", js "fa"]
  | .page (.page doc raw _) => Served docsRoot doc raw ∧
      (Names doc asked ∧ (Alone docsRoot asked target → doc.filePath = target) ∨
        basePrefix = js "/fa" ∧ Names doc (js "fa" :: asked))
  | .page .notFound | .elsewhere => False

section

variable {compare : JsString → JsString → ℤ} {docsRoot : Entries} {asked target : List JsString}
  {doc : DocEntry} {raw basePrefix : JsString}

theorem directOrIndex_names (proper : docsRoot.Proper)
    (found : directOrIndex compare docsRoot asked = some (doc, raw)) :
    Served docsRoot doc raw ∧ Names doc asked := by
  obtain ⟨served, key⟩ := directOrIndex_served proper found
  exact ⟨served, key.imp_right And.left⟩

theorem arrives_page (proper : docsRoot.Proper)
    (found : directOrIndex compare docsRoot asked = some (doc, raw)) (fallback : Bool) :
    Arrives docsRoot basePrefix asked target (.page (.page doc raw fallback)) := by
  obtain ⟨served, names⟩ := directOrIndex_names proper found
  refine ⟨served, .inl ⟨names, fun alone => ?_⟩⟩
  apply alone doc.filePath raw served.file served.shown
  rw [← served.doc]
  exact names

variable (compare) in
/-- The document of a file is found under the slug by which it is addressed. -/
theorem asked_found (proper : docsRoot.Proper) (served : Served docsRoot doc raw)
    (nonempty : askedOf doc.slug ≠ []) (single : (askedOf doc.slug).getLast? ≠ some (js "index")) :
    ∃ other own, directOrIndex compare docsRoot (askedOf doc.slug) = some (other, own) := by
  by_cases index : doc.slug.getLast? = some (js "index")
  · have same : askedOf doc.slug = doc.slug.dropLast := if_pos index
    rw [same] at nonempty single ⊢
    have key : keyOf doc.slug = keyOf (doc.slug.dropLast ++ [js "index"]) := by
      rw [List.dropLast_append_getLast? _ index]
    obtain ⟨⟨other, own⟩, found⟩ := directOrIndex_of_index compare proper served key
      nonempty single
    exact ⟨other, own, found⟩
  · have same : askedOf doc.slug = doc.slug := if_neg index
    rw [same]
    obtain ⟨other, own, found, -⟩ := directOrIndex_of_served compare proper served rfl
    exact ⟨other, own, found⟩

theorem persian_legacy (rest : List JsString) : tryLegacyRedirect (js "fa" :: rest) = none := by
  cases rest with
  | nil => decide
  | cons => rfl

theorem persian_base : trim (js "/fa") ≠ [] := by decide

/-- A Persian slug is looked up, and then the English one. -/
theorem docPage_persian {rest : List JsString} (once : rest[0]? ≠ some (js "fa")) :
    docPage compare docsRoot (js "/fa") (js "fa" :: rest) =
      match directOrIndex compare docsRoot (js "fa" :: rest) with
      | some (doc, raw) => .page doc raw false
      | none =>
          match directOrIndex compare docsRoot rest with
          | some (doc, raw) => .page doc raw true
          | none => .notFound := by
  have same : normalizeSlug (js "fa" :: rest) = js "fa" :: rest := if_neg (List.cons_ne_nil _ _)
  have inner : js "fa" :: rest ≠ [js "index"] := by
    intro index
    exact absurd (List.cons.inj index).1 (by decide)
  cases version : directOrIndex compare docsRoot (js "fa" :: rest) <;>
    cases english : directOrIndex compare docsRoot rest <;>
      simp only [docPage, persian_legacy, if_pos persian_base, same, if_neg inner,
        List.getElem?_cons_zero, List.getElem?_cons_succ, decide_true, Bool.and_true,
        decide_eq_false once, Bool.and_false, Bool.false_eq_true, if_false, if_true,
        List.drop_succ_cons, List.drop_zero, version, english]

variable (compare docsRoot) in
theorem docPage_twice (rest : List JsString) :
    ∃ onward, docPage compare docsRoot (js "/fa") (js "fa" :: js "fa" :: rest) = .redirect onward := by
  have same : normalizeSlug (js "fa" :: js "fa" :: rest) = js "fa" :: js "fa" :: rest :=
    if_neg (List.cons_ne_nil _ _)
  refine ⟨js "/fa" ++ js "/docs/" ++ join [0x2F] rest, ?_⟩
  simp [docPage, persian_legacy, persian_base, same]

/-- Under an address without a language, or an English one, the page is that of the slug itself. -/
theorem english_arrives (proper : docsRoot.Proper) (english : basePrefix ≠ js "/fa")
    (nonempty : asked ≠ []) (single : asked.getLast? ≠ some (js "index"))
    (found : directOrIndex compare docsRoot asked = some (doc, raw)) :
    Arrives docsRoot basePrefix asked target (.page (docPage compare docsRoot basePrefix asked)) := by
  cases legacy : tryLegacyRedirect asked with
  | some onward =>
    have redirected : ∃ onward, docPage compare docsRoot basePrefix asked = .redirect onward := by
      simp only [docPage, legacy]
      exact ⟨_, rfl⟩
    obtain ⟨onward, redirect⟩ := redirected
    rw [redirect]
    exact .inl (by simp [legacy])
  | none =>
    have inner : asked ≠ [js "index"] := by
      rintro rfl
      exact single rfl
    rw [docPage_english english legacy nonempty inner, found]
    exact arrives_page proper found false

/-- Under a Persian address, the page is that of the Persian version if there is one. -/
theorem persian_arrives (proper : docsRoot.Proper) (nonempty : asked ≠ [])
    (found : directOrIndex compare docsRoot asked = some (doc, raw)) :
    Arrives docsRoot (js "/fa") asked target (.page (langPage compare docsRoot (js "fa") asked)) := by
  have address : 0x2F :: js "fa" = js "/fa" := by decide
  obtain ⟨first, rest, rfl⟩ := List.exists_cons_of_ne_nil nonempty
  by_cases farsi : first = js "fa"
  · subst farsi
    have same : langPage compare docsRoot (js "fa") (js "fa" :: rest) =
        docPage compare docsRoot (js "/fa") (js "fa" :: rest) := by
      simp [langPage, address]
    rw [same]
    by_cases twice : rest[0]? = some (js "fa")
    · obtain ⟨second, others, rfl⟩ := List.exists_cons_of_ne_nil (l := rest) (by
        rintro rfl
        cases twice)
      obtain rfl : second = js "fa" := by simpa using twice
      obtain ⟨onward, redirect⟩ := docPage_twice compare docsRoot others
      rw [redirect]
      exact .inr ⟨rfl, rfl⟩
    · rw [docPage_persian twice, found]
      exact arrives_page proper found false
  · have mapped : langPage compare docsRoot (js "fa") (first :: rest) =
        docPage compare docsRoot (js "/fa") (js "fa" :: first :: rest) := by
      simp [langPage, address, farsi]
    rw [mapped, docPage_persian (by simpa using farsi)]
    cases version : directOrIndex compare docsRoot (js "fa" :: first :: rest) with
    | some version =>
      obtain ⟨served, names⟩ := directOrIndex_names proper version
      exact ⟨served, .inr ⟨rfl, names⟩⟩
    | none =>
      rw [found]
      exact arrives_page proper found true

theorem visitDocs_arrives {page : List JsString → Outcome}
    (arrives : asked ≠ [] → Arrives docsRoot basePrefix asked target (.page (page asked))) :
    Arrives docsRoot basePrefix asked target (visitDocs page asked) := by
  unfold visitDocs
  split_ifs with index all
  · exact index
  · exact all
  · exact arrives index

theorem plain_docs : Plain (js "docs") := plain_of_all (by decide) (by decide)

variable (compare docsRoot) in
/-- An address of the site, without a language and with one. -/
theorem visit_address {slug : List JsString} {fragment : JsString} (plain : ∀ name ∈ slug, Plain name)
    (marked : fragment = [] ∨ ∃ rest, fragment = 0x23 :: rest) :
    visit compare docsRoot (under (js "docs" :: slug) ++ fragment) =
        visitDocs (docPage compare docsRoot []) slug ∧
      ∀ lang, Plain lang → lang ≠ js "docs" →
        visit compare docsRoot (under (lang :: js "docs" :: slug) ++ fragment) =
          visitDocs (langPage compare docsRoot lang) slug := by
  have docs := List.forall_mem_cons.mpr ⟨plain_docs, plain⟩
  refine ⟨?_, fun lang named other => ?_⟩
  · rw [visit, segments_under docs marked]
    exact if_pos rfl
  · rw [visit, segments_under (List.forall_mem_cons.mpr ⟨named, docs⟩) marked]
    simp [other]

theorem plain_askedOf {path : List JsString} (plain : ∀ name ∈ path, Plain name) (shown : Shown path)
    (file : path ≠ []) : ∀ name ∈ askedOf (slugOf path), Plain name := by
  obtain ⟨stem, -, -, -, named, same⟩ := slugOf_plain plain shown file
  intro name member
  have listed : name ∈ path.dropLast ++ [stem] := by
    rw [← same]
    unfold askedOf at member
    split_ifs at member with index
    · exact List.dropLast_subset _ member
    · exact member
  obtain inside | last := List.mem_append.mp listed
  · exact plain name (List.dropLast_subset _ inside)
  · rw [List.mem_singleton.mp last]
    exact named

end

/-- A relative link from one document to another leads there, in whichever language the site is read. -/
theorem links_arrive (compare : JsString → JsString → ℤ) {docsRoot : Entries} {base target : List JsString}
    {raw text : JsString} {segments : List JsString} {fragment basePrefix : JsString}
    (proper : docsRoot.Proper) (own : FileAt docsRoot base raw) (ownShown : Shown base)
    (ownPlain : ∀ name ∈ base, Plain name) (there : FileAt docsRoot target text)
    (shown : Shown target) (plain : ∀ name ∈ target, Plain name) (link : Link segments fragment)
    (leads : follow base.dropLast segments = some target)
    (site : basePrefix ∈ [[], js "/en", js "/fa"])
    (single : (askedOf (slugOf target)).getLast? ≠ some (js "index")) :
    Arrives docsRoot basePrefix (askedOf (slugOf target)) target
      (visit compare docsRoot
        (resolveHref (join [0x2F] segments ++ fragment) (slugOf base) basePrefix [])) := by
  have dir : (slugOf base).dropLast = base.dropLast := by
    obtain ⟨_, _, -, -, -, same⟩ := slugOf_plain ownPlain ownShown (fileAt_ne_nil own)
    rw [same, List.dropLast_concat]
  have served : Served docsRoot (docEntry target text) text := ⟨there, shown, rfl⟩
  have address := resolveHref_link link (slugOf base)
    (fun name member => ownPlain name (List.dropLast_subset _ (dir ▸ member)))
    (fun name member => ownShown.visible name (List.dropLast_subset _ (dir ▸ member)))
    (dir ▸ leads) plain shown (fileAt_ne_nil there) basePrefix
  obtain ⟨bare, within⟩ := visit_address compare docsRoot
    (plain_askedOf plain shown (fileAt_ne_nil there)) link.marked
  have found (nonempty : askedOf (slugOf target) ≠ []) := asked_found compare proper served
    nonempty single
  rw [address]
  simp only [List.mem_cons, List.not_mem_nil, or_false] at site
  obtain rfl | rfl | rfl := site
  · have same : (if trim ([] : JsString) ≠ [] then ([] : JsString) else []) ++ 0x2F :: js "docs" =
        under [js "docs"] := by
      decide
    rw [same, ← under_append, List.singleton_append, bare]
    apply visitDocs_arrives
    intro nonempty
    obtain ⟨doc, raw, found⟩ := found nonempty
    exact english_arrives proper (by decide) nonempty single found
  · have same : (if trim (js "/en") ≠ [] then js "/en" else []) ++ 0x2F :: js "docs" =
        under [js "en", js "docs"] := by
      decide
    rw [same, ← under_append, List.cons_append, List.singleton_append,
      within (js "en") (plain_of_all (by decide) (by decide)) (by decide)]
    apply visitDocs_arrives
    intro nonempty
    obtain ⟨doc, raw, found⟩ := found nonempty
    have mapped : langPage compare docsRoot (js "en") (askedOf (slugOf target)) =
        docPage compare docsRoot (js "/en") (askedOf (slugOf target)) := by
      have english : ¬ (js "en" = js "fa" ∧ (askedOf (slugOf target))[0]? ≠ some (js "fa")) :=
        fun both => absurd both.1 (by decide)
      have address : 0x2F :: js "en" = js "/en" := by decide
      rw [langPage, if_neg english, address]
    rw [mapped]
    exact english_arrives proper (by decide) nonempty single found
  · have same : (if trim (js "/fa") ≠ [] then js "/fa" else []) ++ 0x2F :: js "docs" =
        under [js "fa", js "docs"] := by
      decide
    rw [same, ← under_append, List.cons_append, List.singleton_append,
      within (js "fa") (plain_of_all (by decide) (by decide)) (by decide)]
    apply visitDocs_arrives
    intro nonempty
    obtain ⟨doc, raw, found⟩ := found nonempty
    exact persian_arrives proper nonempty found

def handbook : Entries :=
  .cons (js "user") (.directory
    (.cons (js "index.md") (.file (js "# Use"))
      (.cons (js "safety.md") (.file (js "See [use](index.md#top)")) .nil))) .nil

theorem handbook_proper : handbook.Proper :=
  ⟨⟨by decide, by decide, by decide⟩,
    ⟨⟨by decide, by decide, by decide⟩, trivial, ⟨by decide, by decide, by decide⟩, trivial, trivial⟩,
    trivial⟩

/-- The link of a page of the handbook, on the Persian site. -/
theorem handbook_arrives :
    Arrives handbook (js "/fa") [js "user"] [js "user", js "index.md"]
      (visit (fun _ _ => 0) handbook
        (resolveHref (js "index.md#top") (slugOf [js "user", js "safety.md"]) (js "/fa") [])) := by
  have user : Plain (js "user") := plain_of_all (by decide) (by decide)
  have index : Plain (js "index.md") := plain_of_all (by decide) (by decide)
  have safety : Plain (js "safety.md") := plain_of_all (by decide) (by decide)
  have link : Link [js "index.md"] (js "#top") :=
    ⟨List.forall_mem_singleton.mpr index, by decide, .inr ⟨js "top", by decide⟩, by decide⟩
  exact links_arrive (fun _ _ => 0) handbook_proper (.inside (.later .here)) ⟨by decide, by decide⟩
    (List.forall_mem_cons.mpr ⟨user, List.forall_mem_singleton.mpr safety⟩) (.inside .here)
    ⟨by decide, by decide⟩ (List.forall_mem_cons.mpr ⟨user, List.forall_mem_singleton.mpr index⟩) link
    (by decide) (by decide) (by decide)

end ShadowNet.Website
