import ShadowNet.Go.Run
import ShadowNet.Go.WriteFile

/-! # Files that are replaced by renaming

The new contents go to a temporary file first, which then takes the name of the file. Whoever reads
the file finds its old contents or the new ones in full, whatever stops on the way and whatever else
happens to other files in the meantime.
-/

namespace ShadowNet.Go

variable {Path : Type}

/-- The contents of the files by their paths. -/
abbrev Files (Path : Type) := Path → Option Bytes

/-! ## Programs on files -/

/-- A program on files. One that fails keeps what it has done to them. -/
def FileM (ε Path α : Type) : Type := Files Path → Except ε α × Files Path

namespace FileM

variable {ε α β : Type}

def ofExcept (result : Except ε α) : FileM ε Path α := fun files => (result, files)

def andThen (first : FileM ε Path α) (next : α → FileM ε Path β) : FileM ε Path β := fun files =>
  match first files with
  | (Except.error error, middle) => (Except.error error, middle)
  | (Except.ok value, middle) => next value middle

instance : Monad (FileM ε Path) where
  pure value := ofExcept (.ok value)
  bind := andThen

theorem bind_eq_ok {first : FileM ε Path α} {next : α → FileM ε Path β} {files last : Files Path}
    {result : β} : (first >>= next) files = (.ok result, last) ↔
      ∃ value middle, first files = (.ok value, middle) ∧ next value middle = (.ok result, last) := by
  change andThen first next files = _ ↔ _
  unfold andThen
  obtain ⟨outcome, middle⟩ := first files
  cases outcome <;> simp

theorem pure_eq_ok {value result : α} {files last : Files Path} :
    (pure value : FileM ε Path α) files = (.ok result, last) ↔ value = result ∧ files = last := by
  change (Except.ok value, files) = _ ↔ _
  simp

theorem ofExcept_eq_ok {made : Except ε α} {files last : Files Path} {result : α} :
    ofExcept made files = (.ok result, last) ↔ made = .ok result ∧ files = last := Prod.mk_inj

/-- Whatever its outcome, the program keeps a property of the files. -/
def Keeps (holds : Files Path → Prop) (program : FileM ε Path α) : Prop :=
  ∀ files, holds files → holds (program files).2

variable {holds : Files Path → Prop}

theorem keeps_ofExcept (result : Except ε α) : Keeps holds (ofExcept result) := fun _ held => held

theorem keeps_pure (value : α) : Keeps holds (pure value : FileM ε Path α) :=
  keeps_ofExcept (.ok value)

theorem keeps_bind {first : FileM ε Path α} {next : α → FileM ε Path β} (before : Keeps holds first)
    (after : ∀ value, Keeps holds (next value)) : Keeps holds (first >>= next) := by
  intro files held
  have middle := before files held
  change holds (andThen first next files).2
  unfold andThen
  cases outcome : first files with
  | mk result last =>
    rw [outcome] at middle
    cases result with
    | error error => exact middle
    | ok value => exact after value last middle

end FileM

/-! ## One replacement -/

section

variable [DecidableEq Path]

/-- How far the replacement of a file gets. -/
inductive ReplaceAnswer
  | done
  | unwritten (stop : WriteEnd)
  | unrenamed
deriving DecidableEq

/-- The files after a replacement; `temporary` names the file that is written first. -/
def replaceFile (temporary : Path → Path) (files : Files Path) (path : Path) (data : Bytes) :
    ReplaceAnswer → Files Path
  | .done => Function.update (Function.update files (temporary path) none) path (some data)
  | .unwritten stop =>
      Function.update files (temporary path) (stop.leaves (files (temporary path)) data)
  | .unrenamed => Function.update files (temporary path) (some data)

variable {temporary : Path → Path} {path other : Path}

@[simp] theorem replaceFile_done (files : Files Path) (data : Bytes) :
    replaceFile temporary files path data .done path = some data := Function.update_self ..

/-- A replacement touches the file and its temporary one. -/
theorem replaceFile_other (target : other ≠ path) (beside : other ≠ temporary path)
    (files : Files Path) (data : Bytes) (answer : ReplaceAnswer) :
    replaceFile temporary files path data answer other = files other := by
  cases answer with
  | done => rw [replaceFile, Function.update_of_ne target, Function.update_of_ne beside]
  | unwritten stop => exact Function.update_of_ne beside ..
  | unrenamed => exact Function.update_of_ne beside ..

end

/-! ## Replacements under way at the same time -/

variable [DecidableEq Path]

/-- A replacement under way, with the number of bytes that it has written. -/
structure Writer where
  data : Bytes
  written : ℕ

structure FileSystem (Path : Type) where
  files : Files Path
  /-- The writers under way, by the file that they are to replace. -/
  writers : Path → Option Writer := fun _ => none

/-- One system call. -/
inductive FileCall (Path : Type)
  | create (path : Path) (data : Bytes)
  | write (path : Path) (count : ℕ)
  | rename (path : Path) (data : Bytes)
  | stop (path : Path)
  | change (path : Path) (contents : Option Bytes)

/-- Programs replace the files in `targets`, one at a time each, and change files that are not on the
way. A writer may stop anywhere, by an error or with its process. -/
inductive FileStep (temporary : Path → Path) (targets : Set Path) (system : FileSystem Path) :
    FileCall Path → FileSystem Path → Prop
  | create {path : Path} {data : Bytes} (target : path ∈ targets)
      (free : system.writers path = none) :
      FileStep temporary targets system (.create path data)
        { files := Function.update system.files (temporary path) (some [])
          writers := Function.update system.writers path (some ⟨data, 0⟩) }
  | write {path : Path} {writer : Writer} {count : ℕ} (target : path ∈ targets)
      (busy : system.writers path = some writer) :
      FileStep temporary targets system (.write path count)
        { files := Function.update system.files (temporary path) (some (writer.data.take count))
          writers := Function.update system.writers path (some { writer with written := count }) }
  | rename {path : Path} {writer : Writer} (target : path ∈ targets)
      (busy : system.writers path = some writer) (whole : writer.data.length ≤ writer.written) :
      FileStep temporary targets system (.rename path writer.data)
        { files := Function.update (Function.update system.files (temporary path) none) path
            (system.files (temporary path))
          writers := Function.update system.writers path none }
  | stop {path : Path} :
      FileStep temporary targets system (.stop path)
        { system with writers := Function.update system.writers path none }
  | change {path : Path} {contents : Option Bytes}
      (away : ∀ target ∈ targets, path ≠ target ∧ path ≠ temporary target) :
      FileStep temporary targets system (.change path contents)
        { system with files := Function.update system.files path contents }

/-- What a call renames to the path. -/
def FileCall.renamed (path : Path) : FileCall Path → Option Bytes
  | .rename other data => if other = path then some data else none
  | _ => none

/-- The contents that were renamed to a path, in order. -/
def renamedTo (path : Path) (calls : List (FileCall Path)) : List Bytes :=
  calls.filterMap (FileCall.renamed path)

/-- Temporary files are apart from each other and from the files they stand beside. -/
structure Beside (temporary : Path → Path) (targets : Set Path) : Prop where
  injective : Set.InjOn temporary targets
  apart : ∀ path ∈ targets, ∀ other ∈ targets, path ≠ temporary other

section

variable {temporary : Path → Path} {targets : Set Path}

/-- Each writer has its temporary file to itself. -/
def FileSystem.Tidy (temporary : Path → Path) (targets : Set Path) (system : FileSystem Path) : Prop :=
  ∀ path ∈ targets, ∀ writer ∈ system.writers path,
    system.files (temporary path) = some (writer.data.take writer.written)

/-- A call leaves each writer its temporary file. -/
theorem tidy_step (beside : Beside temporary targets) {system next : FileSystem Path} {call : FileCall Path}
    (tidy : system.Tidy temporary targets) (step : FileStep temporary targets system call next) :
    next.Tidy temporary targets := by
  intro other own writer busy
  -- A call on the temporary file of one target leaves those of the others alone.
  have away {path : Path} (inside : path ∈ targets) (different : other ≠ path) :
      temporary other ≠ temporary path :=
    fun same => different (beside.injective own inside same)
  cases step with
  | @create path data target free =>
    dsimp only at busy ⊢
    by_cases same : other = path
    · subst same
      rw [Function.update_self, Option.mem_some_iff] at busy
      subst busy
      rw [Function.update_self, List.take_zero]
    · rw [Function.update_of_ne same] at busy
      rw [Function.update_of_ne (away target same)]
      exact tidy other own writer busy
  | @write path opened count target busyToo =>
    dsimp only at busy ⊢
    by_cases same : other = path
    · subst same
      rw [Function.update_self, Option.mem_some_iff] at busy
      subst busy
      rw [Function.update_self]
    · rw [Function.update_of_ne same] at busy
      rw [Function.update_of_ne (away target same)]
      exact tidy other own writer busy
  | @rename path opened target _ _ =>
    dsimp only at busy ⊢
    by_cases same : other = path
    · subst same
      rw [Function.update_self] at busy
      cases busy
    · rw [Function.update_of_ne same] at busy
      rw [Function.update_of_ne (beside.apart path target other own).symm,
        Function.update_of_ne (away target same)]
      exact tidy other own writer busy
  | @stop path =>
    dsimp only at busy ⊢
    by_cases same : other = path
    · subst same
      rw [Function.update_self] at busy
      cases busy
    · rw [Function.update_of_ne same] at busy
      exact tidy other own writer busy
  | change foreign =>
    dsimp only at busy ⊢
    rw [Function.update_of_ne (foreign other own).2.symm]
    exact tidy other own writer busy

/-- A file changes only where a writer that has written everything renames. -/
theorem files_step (beside : Beside temporary targets) {system next : FileSystem Path} {call : FileCall Path}
    (tidy : system.Tidy temporary targets) (step : FileStep temporary targets system call next)
    {path : Path} (target : path ∈ targets) :
    next.files path = (call.renamed path).or (system.files path) := by
  cases step with
  | create own | write own => exact Function.update_of_ne (beside.apart path target _ own) ..
  | @rename other writer own busy whole =>
    rw [FileCall.renamed]
    dsimp only
    split_ifs with same
    · subst same
      rw [Function.update_self, tidy other own writer busy, List.take_of_length_le whole]
      rfl
    · rw [Function.update_of_ne (Ne.symm same),
        Function.update_of_ne (beside.apart path target other own)]
      rfl
  | stop => rfl
  | change foreign => exact Function.update_of_ne (foreign path target).1.symm ..

/-- At any moment a file holds what was last renamed to it, in full. -/
theorem Run.replaced (beside : Beside temporary targets) {start last : FileSystem Path}
    {calls : List (FileCall Path)} (tidy : start.Tidy temporary targets)
    (run : Run (FileStep temporary targets) start calls last) {path : Path}
    (target : path ∈ targets) :
    last.files path = (renamedTo path calls).getLast?.or (start.files path) := by
  induction run with
  | nil => rfl
  | @cons state next _ call calls stepped rest ih =>
    rw [ih (tidy_step beside tidy stepped), files_step beside tidy stepped target, renamedTo,
      renamedTo, List.filterMap_cons]
    cases call.renamed path with
    | none => rfl
    | some data =>
      rw [List.getLast?_cons]
      cases (calls.filterMap (FileCall.renamed path)).getLast? <;> rfl

/-- A writer has what it was given when it started. -/
theorem writers_step {system next : FileSystem Path} {call : FileCall Path}
    (step : FileStep temporary targets system call next) {path : Path} {writer : Writer}
    (busy : next.writers path = some writer) :
    call = .create path writer.data ∨
      ∃ before, system.writers path = some before ∧ before.data = writer.data := by
  cases step with
  | @create other data _ free =>
    dsimp only at busy
    by_cases same : path = other
    · subst same
      rw [Function.update_self, Option.some.injEq] at busy
      subst busy
      exact .inl rfl
    · rw [Function.update_of_ne same] at busy
      exact .inr ⟨writer, busy, rfl⟩
  | @write other before count _ opened =>
    dsimp only at busy
    by_cases same : path = other
    · subst same
      rw [Function.update_self, Option.some.injEq] at busy
      subst busy
      exact .inr ⟨before, opened, rfl⟩
    · rw [Function.update_of_ne same] at busy
      exact .inr ⟨writer, busy, rfl⟩
  | @rename other _ _ _ _ | @stop other =>
    dsimp only at busy
    by_cases same : path = other
    · subst same
      rw [Function.update_self] at busy
      cases busy
    · rw [Function.update_of_ne same] at busy
      exact .inr ⟨writer, busy, rfl⟩
  | change => exact .inr ⟨writer, busy, rfl⟩

/-- What is renamed to a file was given to a writer before. -/
theorem Run.renamed_created {start last : FileSystem Path} {calls : List (FileCall Path)}
    (run : Run (FileStep temporary targets) start calls last) {path : Path} :
    ∀ data ∈ renamedTo path calls, .create path data ∈ calls ∨
      ∃ writer, start.writers path = some writer ∧ writer.data = data := by
  induction run with
  | nil => exact List.forall_mem_nil _
  | @cons state next _ call calls stepped rest ih =>
    intro data member
    rw [renamedTo, List.filterMap_cons] at member
    have later (inside : data ∈ renamedTo path calls) : .create path data ∈ call :: calls ∨
        ∃ writer, state.writers path = some writer ∧ writer.data = data := by
      obtain created | ⟨writer, busy, rfl⟩ := ih data inside
      · exact .inl (List.mem_cons_of_mem _ created)
      · obtain rfl | before := writers_step stepped busy
        · exact .inl (List.mem_cons_self ..)
        · exact .inr before
    cases renamed : call.renamed path with
    | none =>
      rw [renamed] at member
      exact later member
    | some first =>
      rw [renamed] at member
      obtain rfl | inside := List.mem_cons.mp member
      · cases stepped with
        | @rename other writer _ busy _ =>
          rw [FileCall.renamed] at renamed
          split_ifs at renamed with same
          cases renamed
          subst same
          exact .inr ⟨writer, busy, rfl⟩
        | create | write | stop | change => cases renamed
      · exact later inside

end

/-! ## Temporary files by a suffix -/

def temporaryFile (path : GoString) : GoString := path ++ lit ".tmp"

/-- Files that do not have the suffix themselves. -/
theorem beside_temporaryFile {targets : Set GoString}
    (plain : ∀ path ∈ targets, hasSuffix path (lit ".tmp") = false) : Beside temporaryFile targets := by
  refine ⟨fun path _ other _ same => List.append_cancel_right same, fun path own other _ same => ?_⟩
  have ends : hasSuffix path (lit ".tmp") = true := by
    rw [same]
    exact decide_eq_true (List.suffix_append _ _)
  rw [plain path own] at ends
  cases ends

end ShadowNet.Go
