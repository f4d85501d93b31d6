import ShadowNet.Js.Collections
import ShadowNet.Website.Markdown

/-! # The pages of the documentation

`lib/docs/fs.ts` walks the directory of the documentation and gives each Markdown file a slug, and
`app/docs/[...slug]/page.tsx` looks the slug of a request up among them. A path is the list of its names
below the directory.
-/

namespace ShadowNet.Website

open Js Js.Regexp

/-! ## Directories -/

mutual

/-- What `readdir` finds; `other` is neither a file nor a directory. -/
inductive Node where
  | file (raw : JsString)
  | directory (entries : Entries)
  | other

inductive Entries where
  | nil
  | cons (name : JsString) (node : Node) (rest : Entries)

end

def Entries.names : Entries → List JsString
  | .nil => []
  | .cons name _ rest => name :: rest.names

mutual

/-- A name is not empty, has no slash and stands once in a directory. -/
def Node.Proper : Node → Prop
  | .file _ | .other => True
  | .directory entries => entries.Proper

def Entries.Proper : Entries → Prop
  | .nil => True
  | .cons name node rest =>
      (name ≠ [] ∧ 0x2F ∉ name ∧ name ∉ rest.names) ∧ node.Proper ∧ rest.Proper

end

/-- A file with its path. -/
inductive FileAt : Entries → List JsString → JsString → Prop
  | here {name raw : JsString} {rest : Entries} : FileAt (.cons name (.file raw) rest) [name] raw
  | inside {name raw : JsString} {entries rest : Entries} {path : List JsString}
      (file : FileAt entries path raw) : FileAt (.cons name (.directory entries) rest) (name :: path) raw
  | later {name raw : JsString} {node : Node} {rest : Entries} {path : List JsString}
      (file : FileAt rest path raw) : FileAt (.cons name node rest) path raw

mutual

/-- `readFile`. -/
def Node.read : Node → List JsString → Option JsString
  | .file raw, [] => some raw
  | .directory entries, path => entries.read path
  | _, _ => none

def Entries.read : Entries → List JsString → Option JsString
  | .nil, _ => none
  | .cons name node rest, path =>
      if path.head? = some name then node.read path.tail else rest.read path

end

/-! ## Slugs and titles -/

structure DocEntry where
  slug : List JsString
  filePath : List JsString
  title : JsString
deriving DecidableEq

/-- `/\.md$/i`. -/
def endsMd (name : JsString) : Bool :=
  match name.reverse with
  | d :: m :: dot :: _ => (d == 0x64 || d == 0x44) && (m == 0x6D || m == 0x4D) && dot == 0x2E
  | _ => false

/-- `name.replace(/\.md$/i, "")`. -/
def stripMd (name : JsString) : JsString := if endsMd name then name.dropLast.dropLast.dropLast else name

/-- `.replace(/[-_]+/g, " ")`; `run` tells whether a run is being replaced. -/
def spaceRuns : Bool → JsString → JsString
  | _, [] => []
  | run, head :: rest =>
      if head == 0x2D || head == 0x5F then
        if run then spaceRuns true rest else 0x20 :: spaceRuns true rest
      else head :: spaceRuns false rest

/-- `\w`. -/
def isWord (head : UInt16) : Bool :=
  (0x30 ≤ head && head ≤ 0x39) || (0x41 ≤ head && head ≤ 0x5A) || head == 0x5F ||
    (0x61 ≤ head && head ≤ 0x7A)

/-- `.replace(/\b\w/g, (c) => c.toUpperCase())`; `word` tells whether the unit before is one of a word. -/
def capitalize : Bool → JsString → JsString
  | _, [] => []
  | word, head :: rest =>
      (if !word && (0x61 ≤ head && head ≤ 0x7A) then head - 0x20 else head) ::
        capitalize (isWord head) rest

def titleFromFilename (name : JsString) : JsString := capitalize false (spaceRuns false (stripMd name))

/-- `/^#\s+(.+)\s*$/.exec`, with what the group takes. -/
def execTitle (line : JsString) : Option JsString :=
  if line.head? = some 0x23 then
    (spaces.ends line.tail).findSome? fun first =>
      ((plus dot).ends (line.tail.drop first)).findSome? fun second =>
        if (star space).testWhole (line.tail.drop (first + second)) then
          some ((line.tail.drop first).take second)
        else none
  else none

def readTitle (raw name : JsString) : JsString :=
  match (linesOf raw).findSome? execTitle with
  | some found => trim found
  | none => titleFromFilename name

def slugOf (path : List JsString) : List JsString :=
  let rel := (join [0x2F] path).map fun head => if head = 0x5C then 0x2F else head
  ((stripMd rel).splitOn 0x2F).filter (· ≠ [])

/-- The slug as one text, by which entries are sorted and found. -/
def keyOf (slug : List JsString) : JsString := join [0x2F] slug

def docEntry (filePath : List JsString) (raw : JsString) : DocEntry :=
  { slug := slugOf filePath, filePath, title := readTitle raw (filePath.getLastD []) }

/-! ## The index -/

def isHidden (name : JsString) : Bool := name.head? = some 0x2E

mutual

/-- What `walk` does with an entry that is not hidden. -/
def walkNode (dir : List JsString) (name : JsString) : Node → List DocEntry
  | .directory entries => walk (dir ++ [name]) entries
  | .file raw => if endsMd name then [docEntry (dir ++ [name]) raw] else []
  | .other => []

def walk (dir : List JsString) : Entries → List DocEntry
  | .nil => []
  | .cons name node rest =>
      (if isHidden name then [] else walkNode dir name node) ++ walk dir rest

end

/-- `compare` is `localeCompare`. -/
def getDocsIndex (compare : JsString → JsString → ℤ) (docsRoot : Entries) : List DocEntry :=
  sort (fun a b => compare (keyOf a.slug) (keyOf b.slug)) (walk [] docsRoot)

def getDocBySlug (compare : JsString → JsString → ℤ) (docsRoot : Entries) (slug : List JsString) :
    Option DocEntry :=
  (getDocsIndex compare docsRoot).find? fun e => keyOf e.slug = keyOf slug

def readDocMarkdownBySlug (compare : JsString → JsString → ℤ) (docsRoot : Entries)
    (slug : List JsString) : Option (DocEntry × JsString) := do
  let doc ← getDocBySlug compare docsRoot slug
  let raw ← docsRoot.read doc.filePath
  return (doc, raw)

/-! ## What the walk finds -/

/-- No name on the path is hidden, and the last one is that of a Markdown file. -/
structure Shown (path : List JsString) : Prop where
  visible : ∀ name ∈ path, isHidden name = false
  markdown : endsMd (path.getLastD []) = true

theorem fileAt_ne_nil {entries : Entries} {path : List JsString} {raw : JsString}
    (file : FileAt entries path raw) : path ≠ [] := by
  induction file with
  | here => simp
  | inside => simp
  | later _ ih => exact ih

/-- A path into a directory that has one entry. -/
theorem fileAt_directory {name raw : JsString} {entries : Entries} {path : List JsString} :
    FileAt (.cons name (.directory entries) .nil) path raw ↔
      ∃ inner, path = name :: inner ∧ FileAt entries inner raw := by
  constructor
  · intro file
    cases file with
    | inside file => exact ⟨_, rfl, file⟩
    | later file => cases file
  · rintro ⟨inner, rfl, file⟩
    exact .inside file

theorem fileAt_cons {name raw : JsString} {node : Node} {rest : Entries} {path : List JsString} :
    FileAt (.cons name node rest) path raw ↔
      FileAt (.cons name node .nil) path raw ∨ FileAt rest path raw := by
  constructor
  · intro file
    cases file with
    | here => exact .inl .here
    | inside file => exact .inl (.inside file)
    | later file => exact .inr file
  · rintro (file | file)
    · cases file with
      | here => exact .here
      | inside file => exact .inside file
      | later file => cases file
    · exact .later file

/-- A path begins with the name of the entry that it is in. -/
theorem fileAt_head {name raw : JsString} {node : Node} {path : List JsString}
    (file : FileAt (.cons name node .nil) path raw) : path.head? = some name := by
  cases file with
  | here => rfl
  | inside => rfl
  | later file => cases file

theorem getLastD_cons_ne {name : JsString} {path : List JsString} (some : path ≠ []) :
    (name :: path).getLastD [] = path.getLastD [] := by
  obtain ⟨front, last, rfl⟩ := List.eq_nil_or_concat path |>.resolve_left some
  rw [List.concat_eq_append, ← List.cons_append, List.getLastD_concat, List.getLastD_concat]

mutual

theorem mem_walkNode (dir : List JsString) (name : JsString) (seen : isHidden name = false)
    (e : DocEntry) : (node : Node) → (e ∈ walkNode dir name node ↔
      ∃ path raw, FileAt (.cons name node .nil) path raw ∧ Shown path ∧ e = docEntry (dir ++ path) raw)
  | .file raw => by
    rw [walkNode]
    constructor
    · intro member
      split_ifs at member with md
      · obtain rfl := List.mem_singleton.mp member
        exact ⟨[name], raw, .here, ⟨by simpa using seen, by simpa using md⟩, rfl⟩
      · cases member
    · rintro ⟨path, raw', file, shown, rfl⟩
      cases file with
      | here =>
        have md := shown.markdown
        rw [if_pos (by simpa using md)]
        exact List.mem_singleton_self _
      | later file => cases file
  | .directory entries => by
    rw [walkNode, mem_walk (dir ++ [name]) e entries]
    constructor
    · rintro ⟨path, raw, file, shown, rfl⟩
      refine ⟨name :: path, raw, .inside file, ⟨?_, ?_⟩, by simp⟩
      · exact List.forall_mem_cons.mpr ⟨seen, shown.visible⟩
      · rw [getLastD_cons_ne (fileAt_ne_nil file)]
        exact shown.markdown
    · rintro ⟨path, raw, file, shown, rfl⟩
      obtain ⟨inner, rfl, below⟩ := fileAt_directory.mp file
      refine ⟨inner, raw, below, ⟨fun other member => ?_, ?_⟩, by simp⟩
      · exact shown.visible other (List.mem_cons_of_mem _ member)
      · rw [← getLastD_cons_ne (fileAt_ne_nil below)]
        exact shown.markdown
  | .other => by
    rw [walkNode]
    constructor
    · intro member
      cases member
    · rintro ⟨path, raw, file, -⟩
      cases file with
      | later file => cases file

/-- The walk finds every Markdown file that is not hidden, and nothing else. -/
theorem mem_walk (dir : List JsString) (e : DocEntry) : (entries : Entries) → (e ∈ walk dir entries ↔
      ∃ path raw, FileAt entries path raw ∧ Shown path ∧ e = docEntry (dir ++ path) raw)
  | .nil => by
    rw [walk]
    constructor
    · intro member
      cases member
    · rintro ⟨path, raw, file, -⟩
      cases file
  | .cons name node rest => by
    rw [walk, List.mem_append, mem_walk dir e rest]
    constructor
    · rintro (member | ⟨path, raw, file, shown, rfl⟩)
      · split_ifs at member with hidden
        · cases member
        · obtain ⟨path, raw, file, shown, rfl⟩ :=
            (mem_walkNode dir name (by simpa using hidden) e node).mp member
          exact ⟨path, raw, fileAt_cons.mpr (.inl file), shown, rfl⟩
      · exact ⟨path, raw, .later file, shown, rfl⟩
    · rintro ⟨path, raw, file, shown, rfl⟩
      obtain here | later := fileAt_cons.mp file
      · have seen : isHidden name = false :=
          shown.visible name (List.mem_of_mem_head? (fileAt_head here))
        rw [if_neg (by simp [seen])]
        exact .inl ((mem_walkNode dir name seen _ node).mpr ⟨path, raw, here, shown, rfl⟩)
      · exact .inr ⟨path, raw, later, shown, rfl⟩

end

theorem fileAt_name {entries : Entries} {path : List JsString} {raw : JsString}
    (file : FileAt entries path raw) : ∃ name ∈ path.head?, name ∈ entries.names := by
  induction file with
  | here => exact ⟨_, rfl, List.mem_cons_self ..⟩
  | inside => exact ⟨_, rfl, List.mem_cons_self ..⟩
  | later _ ih =>
    obtain ⟨name, first, member⟩ := ih
    exact ⟨name, first, List.mem_cons_of_mem _ member⟩

/-- A file is read by its path. -/
theorem read_of_fileAt {entries : Entries} {path : List JsString} {raw : JsString}
    (file : FileAt entries path raw) (proper : entries.Proper) : entries.read path = some raw := by
  induction file with
  | here => simp [Entries.read, Node.read]
  | inside file ih =>
    rw [Entries.read, List.head?_cons, if_pos rfl, List.tail_cons, Node.read]
    exact ih proper.2.1
  | later file ih =>
    obtain ⟨first, head, member⟩ := fileAt_name file
    rw [Entries.read, if_neg]
    · exact ih proper.2.2
    · intro same
      obtain rfl := Option.some.inj (head.symm.trans same)
      exact proper.1.2.2 member

/-! ## Pages -/

def legacyRedirects : List (JsString × JsString) :=
  [(js "install-linux", js "/docs/user/install-linux"),
    (js "install-android", js "/docs/user/install-android"),
    (js "install-ios", js "/docs/install"),
    (js "install-raspberrypi", js "/docs/user/install-linux"),
    (js "mobile", js "/docs/android/architecture"),
    (js "signal", js "/docs/signal"),
    (js "security", js "/docs/user/safety"),
    (js "verification", js "/docs/outside/verification")]

/-- The members that an object has from its prototype, as texts. -/
def inheritedMembers : List (JsString × JsString) :=
  (js "__proto__", js "[object Object]") ::
    (js "constructor", js "function Object() \x7b [native code] \x7d") ::
    [js "hasOwnProperty", js "isPrototypeOf", js "propertyIsEnumerable", js "toLocaleString",
      js "toString", js "valueOf", js "__defineGetter__", js "__defineSetter__", js "__lookupGetter__",
      js "__lookupSetter__"].map fun name =>
        (name, js "function " ++ name ++ js "() \x7b [native code] \x7d")

def normalizeSlug (slug : List JsString) : List JsString := if slug = [] then [js "index"] else slug

def tryLegacyRedirect : List JsString → Option JsString
  | [name] => (legacyRedirects ++ inheritedMembers).lookup name
  | _ => none

def tryIndexFallback (slug : List JsString) : Option (List JsString) :=
  if slug = [] ∨ slug.getLast? = some (js "index") then none else some (slug ++ [js "index"])

def generateStaticParams (compare : JsString → JsString → ℤ) (docsRoot : Entries) :
    List (List JsString) :=
  ((getDocsIndex compare docsRoot).flatMap fun e =>
    if e.slug = [js "index"] then []
    else if e.slug.length ≥ 2 ∧ e.slug.getLast? = some (js "index") then [e.slug, e.slug.dropLast]
    else [e.slug]) ++ legacyRedirects.map fun legacy => [legacy.1]

/-- What a request ends in. -/
inductive Outcome where
  | redirect (target : JsString)
  | notFound
  | page (doc : DocEntry) (raw : JsString) (usedEnglishFallback : Bool)
deriving DecidableEq

section

variable (compare : JsString → JsString → ℤ) (docsRoot : Entries)

/-- The document of a slug, or else that of the index in it. -/
def directOrIndex (slug : List JsString) : Option (DocEntry × JsString) :=
  (readDocMarkdownBySlug compare docsRoot slug).or
    ((tryIndexFallback slug).bind (readDocMarkdownBySlug compare docsRoot))

/-- `DocPage`. -/
def docPage (basePrefix : JsString) (slug : List JsString) : Outcome :=
  let resolvedBase := if trim basePrefix ≠ [] then basePrefix else []
  let prefersFa : Bool := resolvedBase = js "/fa"
  match tryLegacyRedirect slug with
  | some legacy => .redirect (resolvedBase ++ legacy)
  | none =>
      let normalized := normalizeSlug slug
      if prefersFa && normalized[0]? = some (js "fa") && normalized[1]? = some (js "fa") then
        .redirect (resolvedBase ++ js "/docs/" ++ join [0x2F] (normalized.drop 2))
      else if normalized = [js "index"] then .redirect (resolvedBase ++ js "/docs")
      else match directOrIndex compare docsRoot normalized with
        | some (doc, raw) => .page doc raw false
        | none =>
            if prefersFa && normalized[0]? = some (js "fa") then
              match directOrIndex compare docsRoot (normalized.drop 1) with
              | some (doc, raw) => .page doc raw true
              | none => .notFound
            else .notFound

end

/-- The document is that of a Markdown file that is not hidden, below the directory. -/
structure Served (docsRoot : Entries) (doc : DocEntry) (raw : JsString) : Prop where
  file : FileAt docsRoot doc.filePath raw
  shown : Shown doc.filePath
  doc : doc = docEntry doc.filePath raw

section

variable {compare : JsString → JsString → ℤ} {docsRoot : Entries} {slug : List JsString}
  {doc : DocEntry} {raw : JsString}

theorem mem_getDocsIndex {e : DocEntry} : e ∈ getDocsIndex compare docsRoot ↔
    ∃ raw, Served docsRoot e raw := by
  rw [getDocsIndex, (sort_perm _ _).mem_iff, mem_walk]
  constructor
  · rintro ⟨path, raw, file, shown, rfl⟩
    exact ⟨raw, file, shown, rfl⟩
  · rintro ⟨raw, file, shown, same⟩
    exact ⟨e.filePath, raw, file, shown, same⟩

theorem readDoc_served (proper : docsRoot.Proper)
    (found : readDocMarkdownBySlug compare docsRoot slug = some (doc, raw)) :
    Served docsRoot doc raw ∧ keyOf doc.slug = keyOf slug := by
  simp only [readDocMarkdownBySlug, Option.bind_eq_bind, Option.bind_eq_some_iff, Option.pure_def,
    Option.some.injEq, Prod.mk.injEq] at found
  obtain ⟨e, first, raw', read, rfl, rfl⟩ := found
  obtain ⟨own, served⟩ := mem_getDocsIndex.mp (List.mem_of_find?_eq_some first)
  have same := read_of_fileAt served.file proper
  rw [read] at same
  cases same
  exact ⟨served, by simpa using List.find?_some first⟩

variable (compare) in
theorem readDoc_of_served (proper : docsRoot.Proper) (served : Served docsRoot doc raw)
    (key : keyOf doc.slug = keyOf slug) :
    ∃ found, readDocMarkdownBySlug compare docsRoot slug = some found := by
  have some : ((getDocsIndex compare docsRoot).find? fun e => keyOf e.slug = keyOf slug).isSome := by
    rw [List.find?_isSome]
    exact ⟨doc, mem_getDocsIndex.mpr ⟨raw, served⟩, by simpa using key⟩
  obtain ⟨e, first⟩ := Option.isSome_iff_exists.mp some
  obtain ⟨own, other⟩ := mem_getDocsIndex.mp (List.mem_of_find?_eq_some first)
  refine ⟨(e, own), ?_⟩
  rw [readDocMarkdownBySlug, getDocBySlug, first]
  simp [read_of_fileAt other.file proper]

/-- No document has the slug. -/
def Missing (docsRoot : Entries) (slug : List JsString) : Prop :=
  ∀ doc raw, Served docsRoot doc raw → keyOf doc.slug ≠ keyOf slug

theorem missing_of_readDoc (proper : docsRoot.Proper)
    (none : readDocMarkdownBySlug compare docsRoot slug = none) : Missing docsRoot slug := by
  intro doc raw served key
  obtain ⟨found, some⟩ := readDoc_of_served compare proper served key
  rw [none] at some
  cases some

theorem directOrIndex_served (proper : docsRoot.Proper)
    (found : directOrIndex compare docsRoot slug = some (doc, raw)) :
    Served docsRoot doc raw ∧ (keyOf doc.slug = keyOf slug ∨
      keyOf doc.slug = keyOf (slug ++ [js "index"]) ∧ Missing docsRoot slug) := by
  rw [directOrIndex, Option.or_eq_some_iff] at found
  obtain direct | ⟨absent, fallback⟩ := found
  · obtain ⟨served, key⟩ := readDoc_served proper direct
    exact ⟨served, .inl key⟩
  · obtain ⟨index, asked, found⟩ := Option.bind_eq_some_iff.mp fallback
    rw [tryIndexFallback] at asked
    split_ifs at asked
    obtain rfl := Option.some.inj asked
    obtain ⟨served, key⟩ := readDoc_served proper found
    exact ⟨served, .inr ⟨key, missing_of_readDoc proper absent⟩⟩

variable (compare) in
theorem directOrIndex_of_served (proper : docsRoot.Proper) (served : Served docsRoot doc raw)
    (key : keyOf doc.slug = keyOf slug) :
    ∃ other own, directOrIndex compare docsRoot slug = some (other, own) ∧
      Served docsRoot other own ∧ keyOf other.slug = keyOf slug := by
  obtain ⟨⟨other, own⟩, found⟩ := readDoc_of_served compare proper served key
  obtain ⟨another, same⟩ := readDoc_served proper found
  exact ⟨other, own, by rw [directOrIndex, found, Option.some_or], another, same⟩

variable (compare) in
/-- The document of the index of a slug is found, unless the slug ends in `index` itself. -/
theorem directOrIndex_of_index (proper : docsRoot.Proper) (served : Served docsRoot doc raw)
    (key : keyOf doc.slug = keyOf (slug ++ [js "index"])) (nonempty : slug ≠ [])
    (inner : slug.getLast? ≠ some (js "index")) :
    ∃ found, directOrIndex compare docsRoot slug = some found := by
  obtain ⟨other, index⟩ := readDoc_of_served compare proper served key
  rw [directOrIndex, tryIndexFallback, if_neg (not_or.mpr ⟨nonempty, inner⟩), Option.bind_some, index]
  cases readDocMarkdownBySlug compare docsRoot slug with
  | none => exact ⟨other, rfl⟩
  | some direct => exact ⟨direct, rfl⟩

/-- The base that is resolved is that of the Persian pages only if it is given. -/
theorem basePrefix_of_persian {basePrefix : JsString}
    (persian : (if trim basePrefix ≠ [] then basePrefix else []) = js "/fa") :
    basePrefix = js "/fa" := by
  split_ifs at persian with blank
  · exact persian
  · exact absurd persian (by decide)

/-- Outside the Persian pages, a slug is looked up unless it is an old one or that of the index. -/
theorem docPage_english {basePrefix : JsString} (english : basePrefix ≠ js "/fa")
    (legacy : tryLegacyRedirect slug = none) (nonempty : slug ≠ []) (inner : slug ≠ [js "index"]) :
    docPage compare docsRoot basePrefix slug = match directOrIndex compare docsRoot slug with
      | some (doc, raw) => .page doc raw false
      | none => .notFound := by
  have other : (if trim basePrefix ≠ [] then basePrefix else []) ≠ js "/fa" :=
    fun persian => english (basePrefix_of_persian persian)
  have same : normalizeSlug slug = slug := if_neg nonempty
  simp only [docPage, legacy, same, decide_eq_false other, Bool.false_and, Bool.false_eq_true,
    if_false, if_neg inner]

/-- A page is that of the slug, or that of the English slug where the Persian one has none. -/
theorem docPage_page {basePrefix : JsString} {fallback : Bool}
    (page : docPage compare docsRoot basePrefix slug = .page doc raw fallback) :
    ∃ asked, directOrIndex compare docsRoot asked = some (doc, raw) ∧
      (fallback = false ∧ asked = normalizeSlug slug ∨
        fallback = true ∧ basePrefix = js "/fa" ∧ slug = js "fa" :: asked ∧
          directOrIndex compare docsRoot slug = none) := by
  simp only [docPage] at page
  generalize resolved : (if trim basePrefix ≠ [] then basePrefix else []) = base at page
  split at page
  · cases page
  · split_ifs at page with twice index persian
    · split at page
      · rename_i direct
        cases page
        exact ⟨_, direct, .inl ⟨rfl, rfl⟩⟩
      · rename_i absent
        split at page
        · rename_i english
          cases page
          simp only [Bool.and_eq_true, decide_eq_true_eq] at persian
          refine ⟨_, english, .inr ⟨rfl, basePrefix_of_persian (resolved.trans persian.1), ?_⟩⟩
          cases slug with
          | nil => exact absurd persian.2 (by decide)
          | cons first rest =>
            obtain rfl : first = js "fa" := by simpa [normalizeSlug] using persian.2
            exact ⟨rfl, absent⟩
        · cases page
    · split at page
      · rename_i direct
        cases page
        exact ⟨_, direct, .inl ⟨rfl, rfl⟩⟩
      · cases page

/-- A page shows a file of the documentation, that of the slug before that of its index. -/
theorem docPage_served (proper : docsRoot.Proper) {basePrefix : JsString} {fallback : Bool}
    (page : docPage compare docsRoot basePrefix slug = .page doc raw fallback) :
    Served docsRoot doc raw ∧ ∃ asked,
      (fallback = false ∧ asked = normalizeSlug slug ∨
        fallback = true ∧ basePrefix = js "/fa" ∧ slug = js "fa" :: asked ∧ Missing docsRoot slug) ∧
      (keyOf doc.slug = keyOf asked ∨
        keyOf doc.slug = keyOf (asked ++ [js "index"]) ∧ Missing docsRoot asked) := by
  obtain ⟨asked, found, which⟩ := docPage_page page
  obtain ⟨served, key⟩ := directOrIndex_served proper found
  refine ⟨served, asked, ?_, key⟩
  apply which.imp_right
  rintro ⟨english, farsi, same, absent⟩
  rw [directOrIndex, Option.or_eq_none_iff] at absent
  exact ⟨english, farsi, same, missing_of_readDoc proper absent.1⟩

variable (compare) in
/-- A document has a page under its own slug. -/
theorem docPage_of_served (proper : docsRoot.Proper) (served : Served docsRoot doc raw)
    (legacy : tryLegacyRedirect doc.slug = none) (nonempty : doc.slug ≠ [])
    (inner : doc.slug ≠ [js "index"]) :
    ∃ other own, docPage compare docsRoot [] doc.slug = .page other own false ∧
      Served docsRoot other own ∧ keyOf other.slug = keyOf doc.slug := by
  obtain ⟨other, own, found, another, key⟩ :=
    directOrIndex_of_served compare proper served rfl
  refine ⟨other, own, ?_, another, key⟩
  rw [docPage_english (by decide) legacy nonempty inner, found]

/-- The pages that are built ahead: the documents, the directories of an index and the old slugs. -/
theorem mem_generateStaticParams (member : slug ∈ generateStaticParams compare docsRoot) :
    (∃ doc raw, Served docsRoot doc raw ∧
      (slug = doc.slug ∨ slug ≠ [] ∧ doc.slug = slug ++ [js "index"])) ∨
      tryLegacyRedirect slug ≠ none := by
  rw [generateStaticParams, List.mem_append] at member
  obtain document | legacy := member
  · left
    obtain ⟨doc, listed, either⟩ := List.mem_flatMap.mp document
    obtain ⟨raw, served⟩ := mem_getDocsIndex.mp listed
    refine ⟨doc, raw, served, ?_⟩
    split_ifs at either with only index
    · cases either
    · obtain rfl | either := List.mem_cons.mp either
      · exact .inl rfl
      · obtain rfl := List.mem_singleton.mp either
        have last := List.dropLast_append_getLast? _ index.2
        refine .inr ⟨?_, last.symm⟩
        intro empty
        rw [empty] at last
        exact only last.symm
    · exact .inl (List.mem_singleton.mp either)
  · right
    obtain ⟨old, listed, rfl⟩ := List.mem_map.mp legacy
    have kept : ∀ old ∈ legacyRedirects, tryLegacyRedirect [old.1] ≠ none := by decide
    exact kept old listed

/-- A page that is built ahead is found, unless its slug ends in `index`. -/
theorem static_found (proper : docsRoot.Proper) (member : slug ∈ generateStaticParams compare docsRoot)
    (lost : docPage compare docsRoot [] slug = .notFound) : slug.getLast? = some (js "index") := by
  by_contra inner
  have other : slug ≠ [js "index"] := by
    rintro rfl
    exact inner rfl
  have legacy : tryLegacyRedirect slug = none := by
    by_contra old
    obtain ⟨target, redirect⟩ := Option.ne_none_iff_exists'.mp old
    simp [docPage, redirect] at lost
  have nonempty : slug ≠ [] := by
    rintro rfl
    simp [docPage, legacy, normalizeSlug] at lost
  rw [docPage_english (by decide) legacy nonempty other] at lost
  obtain ⟨doc, raw, served, rfl | ⟨-, index⟩⟩ | old := mem_generateStaticParams member
  · obtain ⟨_, _, found, -⟩ := directOrIndex_of_served compare proper served rfl
    rw [found] at lost
    cases lost
  · obtain ⟨found, is⟩ :=
      directOrIndex_of_index compare proper served (congrArg keyOf index) nonempty inner
    rw [is] at lost
    cases lost
  · exact old legacy

end

/-- The documentation has a page for every Markdown file that is not hidden, and for nothing else. -/
theorem docs_served (compare : JsString → JsString → ℤ) (docsRoot : Entries)
    (proper : docsRoot.Proper) :
    (∀ basePrefix slug doc raw fallback,
      docPage compare docsRoot basePrefix slug = .page doc raw fallback →
        Served docsRoot doc raw ∧ ∃ asked,
          (fallback = false ∧ asked = normalizeSlug slug ∨
            fallback = true ∧ basePrefix = js "/fa" ∧ slug = js "fa" :: asked ∧
              Missing docsRoot slug) ∧
          (keyOf doc.slug = keyOf asked ∨
            keyOf doc.slug = keyOf (asked ++ [js "index"]) ∧ Missing docsRoot asked)) ∧
    (∀ path raw, FileAt docsRoot path raw → Shown path → tryLegacyRedirect (slugOf path) = none →
      slugOf path ≠ [] → slugOf path ≠ [js "index"] →
        ∃ doc own, docPage compare docsRoot [] (slugOf path) = .page doc own false ∧
          keyOf doc.slug = keyOf (slugOf path) ∧
          ((∀ other text, FileAt docsRoot other text → Shown other →
            keyOf (slugOf other) = keyOf (slugOf path) → other = path) →
              doc.filePath = path ∧ own = raw)) ∧
    ∀ slug ∈ generateStaticParams compare docsRoot,
      docPage compare docsRoot [] slug = .notFound → slug.getLast? = some (js "index") := by
  refine ⟨?_, ?_, ?_⟩
  · intro basePrefix slug doc raw fallback page
    exact docPage_served proper page
  · intro path raw file shown legacy nonempty inner
    have served : Served docsRoot (docEntry path raw) raw := ⟨file, shown, rfl⟩
    obtain ⟨doc, own, page, another, key⟩ :=
      docPage_of_served compare proper served legacy nonempty inner
    refine ⟨doc, own, page, key, ?_⟩
    intro unique
    have same : doc.filePath = path := by
      apply unique doc.filePath own another.file another.shown
      rw [another.doc] at key
      exact key
    have read := read_of_fileAt another.file proper
    rw [same, read_of_fileAt file proper] at read
    exact ⟨same, (Option.some.inj read).symm⟩
  · intro slug member
    exact static_found proper member

/-- A directory of which one file is hidden. -/
def guide : Entries :=
  .cons (js "user") (.directory
    (.cons (js "index.md") (.file (js "# Use"))
      (.cons (js ".draft.md") (.file (js "# Draft")) .nil))) .nil

theorem guide_proper : guide.Proper :=
  ⟨⟨by decide, by decide, by decide⟩,
    ⟨⟨by decide, by decide, by decide⟩, trivial, ⟨by decide, by decide, by decide⟩, trivial, trivial⟩,
    trivial⟩

/-- The page of a directory is that of its index, which has its own page too. -/
theorem guide_served :
    (∃ doc, docPage (fun _ _ => 0) guide [] [js "user"] = .page doc (js "# Use") false ∧
      doc.filePath = [js "user", js "index.md"] ∧ Served guide doc (js "# Use")) ∧
    (∃ doc own, docPage (fun _ _ => 0) guide [] [js "user", js "index"] = .page doc own false ∧
      doc.filePath = [js "user", js "index.md"] ∧ own = js "# Use") ∧
    ∀ slug ∈ generateStaticParams (fun _ _ => 0) guide,
      docPage (fun _ _ => 0) guide [] slug = .notFound → slug.getLast? = some (js "index") := by
  obtain ⟨only, every, built⟩ := docs_served (fun _ _ => 0) guide guide_proper
  refine ⟨?_, ?_, built⟩
  · have page : docPage (fun _ _ => 0) guide [] [js "user"] =
        .page ⟨[js "user", js "index"], [js "user", js "index.md"], js "Use"⟩ (js "# Use") false := by
      decide
    exact ⟨_, page, rfl, (only _ _ _ _ _ page).1⟩
  · obtain ⟨doc, own, page, -, alone⟩ := every [js "user", js "index.md"] (js "# Use")
      (.inside .here) ⟨by decide, by decide⟩ (by decide) (by decide) (by decide)
    refine ⟨doc, own, page, alone fun other text file shown _ => ?_⟩
    obtain ⟨inner, rfl, below⟩ := fileAt_directory.mp file
    cases below with
    | here => rfl
    | later draft =>
      cases draft with
      | here =>
        have hidden := shown.visible (js ".draft.md") (by simp)
        exact absurd hidden (by decide)
      | later none => cases none

end ShadowNet.Website
