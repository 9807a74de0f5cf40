import Mathlib.Data.List.Basic
import PxpAgent.Request

/-!
# PxpAgent.FileUtils — the file helpers of `Cthun::Common::FileUtils`

The helpers wrap the C++ standard library and the shell: `fileExists` opens an
`ifstream`, `removeFile` calls `std::remove`, `streamToFile` and `writeToFile`
write through an `ofstream`, `readFileAsJson` reads a file line by line and
parses it with `Json::Reader`, and `expandAsDoneByShell` calls `wordexp`.
The operating system is a `Disk`: the files, and which paths may be opened for
writing or removed.

Main results:
* `getlineLoop_eq` — the read loop of `readFileAsJson` returns the file's text
  with a line break added after an unterminated last line;
* `readFileAsJson_writeToFile` — a text written by `writeToFile` to a readable
  path reads back as its parse, with that line break added, when that parses.

`removeFile_spec` says what `removeFile` does to the disk.

Left out: `createDirectory`, a call of `boost::filesystem::create_directory`;
the open modes other than truncation and appending; and what `readFileAsJson`
returns for content that does not parse (`nullptr`, see `readFileAsJson`).
-/

namespace PxpAgent.FileUtils

/-! ## §1. The disk and the shell -/

/-- The files the helpers touch, and what the operating system allows. -/
structure Disk where
  files : FileSystem
  /-- Whether `std::ofstream::open(path)` succeeds. -/
  canOpen : String → Bool
  /-- Whether `std::remove(path)` succeeds. -/
  canRemove : String → Bool

/-- The disk with one path set to a new state. -/
def Disk.update (disk : Disk) (path : String) (state : FileState) : Disk :=
  { disk with files := fun p => if p = path then state else disk.files p }

@[simp] theorem Disk.update_files_self (disk : Disk) (path : String) (state : FileState) :
    (disk.update path state).files path = state := by
  simp [Disk.update]

@[simp] theorem Disk.update_files_ne (disk : Disk) {path p : String} (state : FileState)
    (h : p ≠ path) : (disk.update path state).files p = disk.files p := by
  simp [Disk.update, h]

/-- `wordexp(txt, &result, 0)`: the words of the expansion, `none` when it
fails. -/
structure Shell where
  wordexp : String → Option (List String)

/-- The open modes the helpers use. -/
inductive OpenMode where
  /-- `std::ofstream::out | std::ofstream::trunc`. -/
  | trunc
  /-- `std::ofstream::out | std::ofstream::app`. -/
  | app

/-! ## §2. The helpers -/

/-- `expandAsDoneByShell(txt)`: the first word of the expansion, the empty text
when `wordexp` fails. An expansion with no word leaves `we_wordv[0]` null, and
the string is built from that null pointer. -/
def expandAsDoneByShell (shell : Shell) (txt : String) : Except Exception String :=
  match shell.wordexp txt with
  | none => .ok ""
  | some [] => .error (.logicError "basic_string::_M_construct null not valid")
  | some (word :: _) => .ok word

/-- `fileExists(file_path)`: whether an `ifstream` on the path is good; the
empty path is logged and not looked up. -/
def fileExists (disk : Disk) (filePath : String) : Bool :=
  if filePath = "" then false
  else
    match disk.files filePath with
    | .contents _ => true
    | _ => false

/-- `removeFile(file_path)`: remove a file that `fileExists` sees. -/
def removeFile (disk : Disk) (filePath : String) : Except Exception Disk :=
  if fileExists disk filePath then
    if disk.canRemove filePath then .ok (disk.update filePath .absent)
    else .error (.fileError ("failed to remove " ++ filePath))
  else .ok disk

/-- `removeFile` raises `file_error` exactly when the file can be read and
`std::remove` fails. Otherwise the file is gone, or it could not be read and
is left as it was; no other path changes. -/
theorem removeFile_spec (disk : Disk) (path : String) :
    (∀ e, removeFile disk path = .error e ↔
      e = .fileError ("failed to remove " ++ path) ∧ fileExists disk path = true ∧
        disk.canRemove path = false) ∧
    ∀ disk', removeFile disk path = .ok disk' →
      (∀ p, p ≠ path → disk'.files p = disk.files p) ∧
      (disk'.files path = .absent ∨ (fileExists disk path = false ∧ disk' = disk)) := by
  unfold removeFile
  cases hex : fileExists disk path
  · refine ⟨fun e => by simp, fun disk' h => ?_⟩
    cases h
    exact ⟨fun _ _ => rfl, .inr ⟨rfl, rfl⟩⟩
  · cases hrm : disk.canRemove path
    · refine ⟨fun e => ?_, fun disk' h => by simp at h⟩
      simp [eq_comm]
    · refine ⟨fun e => by simp, fun disk' h => ?_⟩
      simp only [if_true, Except.ok.injEq] at h
      subst h
      exact ⟨fun p hp => Disk.update_files_ne _ _ hp, .inl (Disk.update_files_self _ _ _)⟩

/-- `streamToFile(text, file_path, mode)`. The permissions of a file do not
change when it is written: a file that could not be read still cannot. -/
def streamToFile (disk : Disk) (text filePath : String) (mode : OpenMode) :
    Except Exception Disk :=
  if !disk.canOpen filePath then .error (.fileError ("failed to open " ++ filePath))
  else
    .ok (disk.update filePath
      (match mode, disk.files filePath with
       | _, .unreadable => .unreadable
       | .app, .contents old => .contents (old ++ text)
       | _, _ => .contents text))

/-- `writeToFile(text, file_path)`. -/
def writeToFile (disk : Disk) (text filePath : String) : Except Exception Disk :=
  streamToFile disk text filePath .trunc

/-- `while (std::getline(file, buffer)) { content += buffer;
content.push_back('\n'); }` over the characters left in the file, with the
characters of the current line read so far in `buffer`: `getline` stops at a
line break, and at the end of the file succeeds only if it read a character. -/
def getlineLoop (buffer : List Char) : List Char → List Char
  | [] => if buffer = [] then [] else buffer ++ ['\n']
  | c :: rest =>
    if c = '\n' then buffer ++ '\n' :: getlineLoop [] rest
    else getlineLoop (buffer ++ [c]) rest

/-- `readFileAsJson(path)`: the content the read loop collects, parsed by
`Json::Reader`. A file that cannot be opened gives the empty content. For
content that does not parse the function returns `nullptr`, which builds its
`Json::Value` from a null `const char*`: depending on the jsoncpp version that
reads through the null pointer or raises `Json::LogicError`. The model leaves
that path out (`none`). -/
def readFileAsJson (json : JsonText) (disk : Disk) (path : String) : Option Json :=
  let content : String :=
    match disk.files path with
    | .contents text => ⟨getlineLoop [] text.toList⟩
    | _ => ""
  match json.parse content with
  | .ok doc => some doc
  | .error _ => none

/-! ## §3. The read loop -/

/-- A text with a line break added after an unterminated last line. -/
def terminateLines (cs : List Char) : List Char :=
  if cs = [] ∨ cs.getLast? = some '\n' then cs else cs ++ ['\n']

theorem terminateLines_append (xs : List Char) {ys : List Char} (hys : ys ≠ []) :
    terminateLines (xs ++ ys) = xs ++ terminateLines ys := by
  have hlast : (xs ++ ys).getLast? = ys.getLast? := List.getLast?_append_of_ne_nil xs hys
  simp only [terminateLines, hlast, List.append_eq_nil, hys, and_false, false_or]
  split <;> simp

/-- The read loop, from a line read so far without a line break, collects the
rest of the text with its last line terminated. -/
theorem getlineLoop_eq (buffer cs : List Char) (hbuffer : '\n' ∉ buffer) :
    getlineLoop buffer cs = terminateLines (buffer ++ cs) := by
  induction cs generalizing buffer with
  | nil =>
    have hlast : buffer.getLast? ≠ some '\n' := fun h => hbuffer (List.mem_of_mem_getLast? h)
    by_cases hb : buffer = [] <;> simp [getlineLoop, terminateLines, hb, hlast]
  | cons c rest ih =>
    by_cases hc : c = '\n'
    · subst hc
      rw [getlineLoop, if_pos rfl, ih [] (List.not_mem_nil _), List.nil_append]
      by_cases hrest : rest = []
      · subst hrest
        simp [terminateLines]
      · rw [show buffer ++ '\n' :: rest = (buffer ++ ['\n']) ++ rest by simp,
          terminateLines_append _ hrest]
        simp
    · rw [getlineLoop, if_neg hc, ih (buffer ++ [c]) (by simp [hbuffer, Ne.symm hc])]
      simp

/-! ## §4. Writing and reading back -/

/-- A text written by `writeToFile` to a path that was readable or absent reads
back as the parse of the text with its last line terminated, when that
parses. -/
theorem readFileAsJson_writeToFile (json : JsonText) (disk disk' : Disk) (text path : String)
    (doc : Json) (hreadable : disk.files path ≠ .unreadable) (h : writeToFile disk text path = .ok disk')
    (hparse : json.parse ⟨terminateLines text.toList⟩ = .ok doc) :
    readFileAsJson json disk' path = some doc := by
  unfold writeToFile streamToFile at h
  split at h
  · cases h
  · cases h
    have hstate : (match OpenMode.trunc, disk.files path with
        | _, .unreadable => FileState.unreadable
        | .app, .contents old => .contents (old ++ text)
        | _, _ => .contents text) = .contents text := by
      split <;> simp_all
    simp only [readFileAsJson, Disk.update_files_self, hstate,
      getlineLoop_eq [] _ (List.not_mem_nil _), List.nil_append, hparse]

/-- An empty disk on which every path can be written and removed. -/
def emptyDisk : Disk := ⟨fun _ => .absent, fun _ => true, fun _ => true⟩

theorem readFileAsJson_writeToFile_sample :
    readFileAsJson (JsonText.ofTable [("[]\n", .arr [])])
        (emptyDisk.update "/etc/cthun/state.json" (.contents "[]")) "/etc/cthun/state.json" =
      some (.arr []) :=
  readFileAsJson_writeToFile (JsonText.ofTable [("[]\n", .arr [])]) emptyDisk _ "[]"
    "/etc/cthun/state.json" (.arr []) (fun h => by cases h) rfl rfl

end PxpAgent.FileUtils
