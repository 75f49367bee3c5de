import Varmlen.Daemon.PermissionWatcher
import Varmlen.Foundation.Checks
import Varmlen.Foundation.Replacement
import Varmlen.Foundation.TextParts

/-!
# What the permission watcher listens to

The marks that the watcher sets before its thread runs (`install_marks` in
`daemon/src/split/watcher.rs`): on each file that a rule gives the path of, and on every
mount that programs can be started from when a rule is a name.
-/

namespace Varmlen.Daemon

open Foundation.Checks Foundation.Text

/-! ## Mounts -/

/-- The parts before and after the first occurrence of a text. -/
def splitOnceAt (pattern text : String) : Option (String × String) :=
  if contains text pattern then
    let front := charsBefore pattern.toList text.toList
    some (String.ofList front,
      String.ofList (text.toList.drop (front.length + pattern.toList.length)))
  else none

/-- File systems that no program is started from. -/
def withoutPrograms : List String :=
  ["proc", "sysfs", "cgroup2", "devpts", "mqueue", "securityfs", "debugfs", "tracefs"]

def executableMountPoint (line : String) : Option String := do
  let (left, right) ← splitOnceAt " - " line
  let fields := splitWhitespace left
  let fsType ← (splitWhitespace right).head?
  if fields.length < 6 ∨ "noexec" ∈ split ',' (fields.getD 5 "") ∨ fsType ∈ withoutPrograms then
    none
  else some (replace (fields.getD 4 "") "\\040" " ")

def executableMountPoints (mountinfo : Option String) : List String :=
  match mountinfo with
  | none => ["/"]
  | some mountinfo => (lines mountinfo).filterMap executableMountPoint

/-! ## Marks -/

/-- A mark, which asks before the start of a program, or before the file is opened as well. -/
inductive FanotifyMark where
  | mount (point : String)
  | file (path : PathBuf) (opens : Bool)
  deriving DecidableEq

/-- What the watcher finds on the machine. -/
structure WatchedFiles where
  rootOpens : Bool
  mountinfo : Option String
  canonicalize : PathBuf → Option PathBuf
  content : PathBuf → Option (List UInt8)
  /-- The kernel sets the mark. -/
  takes : FanotifyMark → Bool

namespace PermissionWatcher

variable (files : WatchedFiles) (selectors : List AppSelector)

def isPortableExecutable (path : PathBuf) : Bool :=
  (files.content path).any fun content => content.take 2 == [0x4d, 0x5a]

def hasNames : Bool :=
  selectors.any fun
    | .processName _ => true
    | .exactPath _ => false

/-- The path as it is shown. -/
def displayPath (path : PathBuf) : String :=
  (if path.absolute then "/" else "") ++ "/".intercalate path.components

def markMounts : List FanotifyMark :=
  if hasNames selectors then
    ((executableMountPoints files.mountinfo).map .mount).filter files.takes
  else []

def markFile (path : PathBuf) : Except SplitError FanotifyMark :=
  match files.canonicalize path with
  | none => .error (.invalidApplication (displayPath path))
  | some canonical =>
      let mark := .file canonical (isPortableExecutable files canonical)
      if files.takes mark then .ok mark else .error .watcherUnavailable

/-- The path of a rule. -/
def pathOf : AppSelector → Option PathBuf
  | .exactPath path => some path
  | .processName _ => none

def installMarks : Except SplitError (List FanotifyMark) :=
  if ¬files.rootOpens then .error .watcherUnavailable
  else if hasNames selectors ∧ markMounts files selectors = [] then .error .watcherUnavailable
  else do
    let marks ← (selectors.filterMap pathOf).mapM (markFile files)
    return markMounts files selectors ++ marks

end PermissionWatcher

/-! ## What the kernel shows of a mount -/

structure Mount where
  /-- The numbers of the mount, its parent and its device. -/
  numbers : String × String × String
  root : String
  point : String
  options : List String
  /-- The fields before the dash. -/
  optional : List String
  fsType : String
  source : String
  superOptions : String

/-- Space, tabs, line feeds and backslashes in a path are written as their octal codes. -/
def mangleChar : Char → List Char
  | ' ' => "\\040".toList
  | '\t' => "\\011".toList
  | '\n' => "\\012".toList
  | '\\' => "\\134".toList
  | char => [char]

def mangle (path : String) : String := String.ofList (path.toList.flatMap mangleChar)

namespace Mount

def leftFields (mount : Mount) : List String :=
  [mount.numbers.1, mount.numbers.2.1, mount.numbers.2.2, mangle mount.root, mangle mount.point,
    ",".intercalate mount.options] ++ mount.optional

def rightFields (mount : Mount) : List String :=
  [mount.fsType, mount.source, mount.superOptions]

def line (mount : Mount) : String :=
  " ".intercalate mount.leftFields ++ " - " ++ " ".intercalate mount.rightFields

def startsPrograms (mount : Mount) : Bool :=
  "noexec" ∉ mount.options && mount.fsType ∉ withoutPrograms

/-- The fields are words, and no field but the one between the halves is a dash; of the white
space, only spaces occur in the mount point, and no backslash. -/
structure Plain (mount : Mount) : Prop where
  left : ∀ field ∈ mount.leftFields, IsWord field ∧ field ≠ "-"
  right : ∀ field ∈ mount.rightFields, IsWord field
  options : mount.options ≠ [] ∧ ∀ option ∈ mount.options, ',' ∉ option.toList
  point : ∀ char ∈ mount.point.toList, char ≠ '\\' ∧ (isWhitespace char = true → char = ' ')

end Mount

/-! ## Reading a mount -/

section Dash

variable {word : String}

theorem charsBefore_word (isWord : IsWord word) (others rest : List Char) :
    charsBefore (' ' :: others) (word.toList ++ rest) =
      word.toList ++ charsBefore (' ' :: others) rest := by
  have solid := isWord.2
  generalize word.toList = chars at solid
  induction chars with
  | nil => rfl
  | cons char chars ih =>
      rw [List.forall_mem_cons] at solid
      have notSpace : ' ' ≠ char := by
        intro same
        rw [← same] at solid
        exact absurd solid.1 (by decide)
      rw [List.cons_append, charsBefore, if_neg (by simp [notSpace]), ih solid.2, List.cons_append]

theorem charsBefore_self {char : Char} (others rest : List Char) :
    charsBefore (char :: others) (char :: others ++ rest) = [] := by
  rw [List.cons_append, charsBefore, if_pos (by simp)]

/-- A word that is no dash does not start like one. -/
theorem not_dash_prefix (isWord : IsWord word) (noDash : word ≠ "-") (rest : List Char) :
    ¬['-', ' '] <+: word.toList ++ rest := by
  intro starts
  have solid := isWord.2
  cases chars : word.toList with
  | nil => exact isWord.1 (String.toList_eq_nil_iff.1 chars)
  | cons first others =>
      rw [chars, List.cons_append, List.cons_prefix_cons] at starts
      cases others with
      | nil =>
          apply noDash
          apply String.toList_injective
          rw [chars, ← starts.1]
          rfl
      | cons second others =>
          rw [List.cons_append, List.cons_prefix_cons] at starts
          have space := solid second (by rw [chars]; simp)
          rw [← starts.2.1] at space
          exact absurd space (by decide)

/-- The first lone dash ends the fields before it. -/
theorem charsBefore_dash {words : List String} (solid : ∀ word ∈ words, IsWord word ∧ word ≠ "-")
    (rest : List Char) :
    charsBefore [' ', '-', ' '] ((" ".intercalate words).toList ++ ([' ', '-', ' '] ++ rest)) =
      (" ".intercalate words).toList := by
  induction words with
  | nil => exact charsBefore_self ['-', ' '] rest
  | cons word words ih =>
      rw [List.forall_mem_cons] at solid
      cases words with
      | nil =>
          rw [String.intercalate_singleton, charsBefore_word solid.1.1,
            charsBefore_self ['-', ' '] rest, List.append_nil]
      | cons next words =>
          obtain ⟨nextWord, noDash⟩ := solid.2 next List.mem_cons_self
          have front : (" ".intercalate (word :: next :: words)).toList =
              word.toList ++ ' ' :: (" ".intercalate (next :: words)).toList := by
            rw [String.intercalate_cons_cons]
            simp
          have starts : ∃ more, (" ".intercalate (next :: words)).toList = next.toList ++ more := by
            cases words with
            | nil => exact ⟨[], by simp⟩
            | cons third words =>
                exact ⟨' ' :: (" ".intercalate (third :: words)).toList, by
                  rw [String.intercalate_cons_cons]
                  simp⟩
          have apart : ¬[' ', '-', ' '] <+:
              ' ' :: ((" ".intercalate (next :: words)).toList ++ ([' ', '-', ' '] ++ rest)) := by
            intro isPrefix
            obtain ⟨more, whole⟩ := starts
            rw [List.cons_prefix_cons, whole, List.append_assoc] at isPrefix
            exact not_dash_prefix nextWord noDash _ isPrefix.2
          rw [front, List.append_assoc, charsBefore_word solid.1.1, List.cons_append, charsBefore,
            if_neg (by simpa using apart), ih solid.2]

theorem splitOnceAt_dash {words : List String} (solid : ∀ word ∈ words, IsWord word ∧ word ≠ "-")
    (rest : String) :
    splitOnceAt " - " (" ".intercalate words ++ " - " ++ rest) =
      some (" ".intercalate words, rest) := by
  have parts : (" ".intercalate words ++ " - " ++ rest).toList =
      (" ".intercalate words).toList ++ ([' ', '-', ' '] ++ rest.toList) := by
    simp
  have pattern : " - ".toList = [' ', '-', ' '] := rfl
  have occurs : contains (" ".intercalate words ++ " - " ++ rest) " - " = true := by
    rw [contains, parts, pattern]
    exact decide_eq_true ⟨_, rest.toList, by rw [List.append_assoc]⟩
  have after : ((" ".intercalate words).toList ++ ([' ', '-', ' '] ++ rest.toList)).drop
      ((" ".intercalate words).toList.length + [' ', '-', ' '].length) = rest.toList := by
    rw [List.drop_length_add_append]
    rfl
  rw [splitOnceAt, if_pos occurs, parts, pattern]
  simp only [charsBefore_dash solid rest.toList, after, String.ofList_toList]

end Dash

/-- The octal code of a space gives the space back. -/
theorem replace_mangle {path : String} (plain : ∀ char ∈ path.toList, char ≠ '\\' ∧
    (isWhitespace char = true → char = ' ')) : replace (mangle path) "\\040" " " = path := by
  have code : "\\040".toList = ['\\', '0', '4', '0'] := rfl
  have read : ∀ chars : List Char, (∀ char ∈ chars, char ≠ '\\' ∧
      (isWhitespace char = true → char = ' ')) →
      replaceFrom ['\\', '0', '4', '0'] [' '] 0 (chars.flatMap mangleChar) = chars := by
    intro chars plain
    induction chars with
    | nil => rfl
    | cons char rest ih =>
        rw [List.forall_mem_cons] at plain
        rw [List.flatMap_cons]
        by_cases space : char = ' '
        · rw [space]
          exact (replaceFrom_pattern [' '] (by decide) _).trans (congrArg (' ' :: ·) (ih plain.2))
        · have kept : mangleChar char = [char] := by
            unfold mangleChar
            split
            next => exact absurd rfl space
            next => exact absurd (plain.1.2 (by decide)) (by decide)
            next => exact absurd (plain.1.2 (by decide)) (by decide)
            next => exact absurd rfl plain.1.1
            next => rfl
          have apart : ¬['\\', '0', '4', '0'] <+: char :: rest.flatMap mangleChar := by
            intro starts
            exact plain.1.1 (List.cons_prefix_cons.1 starts).1.symm
          rw [kept, List.singleton_append, replaceFrom_cons [' '] apart, ih plain.2]
  rw [replace, code, mangle]
  change String.ofList (replaceFrom _ [' '] 0 _) = path
  rw [String.toList_ofList, read path.toList plain, String.ofList_toList]

/-- A line is read as the mount that it shows. -/
theorem executableMountPoint_line {mount : Mount} (plain : mount.Plain) :
    executableMountPoint mount.line = if mount.startsPrograms then some mount.point else none := by
  have fields : splitWhitespace (" ".intercalate mount.leftFields) = mount.leftFields :=
    splitWhitespace_intercalate fun field member => (plain.left field member).1
  have type : splitWhitespace (" ".intercalate mount.rightFields) = mount.rightFields :=
    splitWhitespace_intercalate plain.right
  have options : split ',' (",".intercalate mount.options) = mount.options :=
    split_intercalate plain.options.1 plain.options.2
  have enough : ¬mount.leftFields.length < 6 := by
    simp [Mount.leftFields]
  have fifth : mount.leftFields.getD 5 "" = ",".intercalate mount.options := rfl
  have fourth : mount.leftFields.getD 4 "" = mangle mount.point := rfl
  have head : mount.rightFields.head? = some mount.fsType := rfl
  rw [executableMountPoint, Mount.line, splitOnceAt_dash plain.left]
  simp only [Option.bind_eq_bind, Option.bind_some, fields, type, head, fifth, fourth, options,
    enough, false_or, replace_mangle plain.point]
  by_cases starts : mount.startsPrograms = true
  · rw [if_pos starts, if_neg]
    simpa [Mount.startsPrograms] using starts
  · rw [if_neg starts, if_pos]
    simpa [Mount.startsPrograms, or_iff_not_imp_left] using starts

/-- No white space but spaces stands in a line. -/
theorem not_mem_line {mount : Mount} (plain : mount.Plain) {char : Char}
    (space : isWhitespace char = true) (other : char ≠ ' ') : char ∉ mount.line.toList := by
  have apart : char ∉ " ".toList := by simpa using other
  have notWord {word : String} (isWord : IsWord word) : char ∉ word.toList := by
    intro member
    rw [isWord.2 char member] at space
    cases space
  have notDash : char ∉ " - ".toList := by
    intro member
    have either : char = ' ' ∨ char = '-' ∨ char = ' ' := by simpa using member
    obtain isSpace | isDash | isSpace := either
    · exact other isSpace
    · rw [isDash] at space
      exact absurd space (by decide)
    · exact other isSpace
  have left := not_mem_intercalate apart
    fun field member => notWord (plain.left field member).1
  have right := not_mem_intercalate apart fun field member => notWord (plain.right field member)
  rw [Mount.line, String.toList_append, String.toList_append, List.mem_append, List.mem_append]
  exact not_or.2 ⟨not_or.2 ⟨left, notDash⟩, right⟩

/-- The list of the mounts. -/
def mountTable (mounts : List Mount) : String :=
  String.join ((mounts.map Mount.line).map (· ++ "\n"))

theorem executableMountPoints_mountTable {mounts : List Mount}
    (plain : ∀ mount ∈ mounts, mount.Plain) :
    executableMountPoints (some (mountTable mounts)) =
      (mounts.filter Mount.startsPrograms).map Mount.point := by
  have rows : lines (mountTable mounts) = mounts.map Mount.line := by
    apply lines_joined
    · intro row member
      obtain ⟨mount, known, rfl⟩ := List.mem_map.1 member
      exact not_mem_line (plain mount known) (by decide) (by decide)
    · intro row member
      obtain ⟨mount, known, rfl⟩ := List.mem_map.1 member
      rw [endsWith, Bool.eq_false_iff]
      intro ended
      have isSuffix : ['\r'] <:+ mount.line.toList := by simpa using ended
      exact not_mem_line (plain mount known) (by decide) (by decide) (isSuffix.subset (.head _))
  rw [executableMountPoints, rows, List.filterMap_map]
  clear rows
  induction mounts with
  | nil => rfl
  | cons mount rest ih =>
      rw [List.forall_mem_cons] at plain
      have read : (executableMountPoint ∘ Mount.line) mount =
          if mount.startsPrograms then some mount.point else none :=
        executableMountPoint_line plain.1
      cases starts : mount.startsPrograms with
      | true =>
          rw [starts, if_pos rfl] at read
          rw [List.filterMap_cons_some read, ih plain.2, List.filter_cons_of_pos starts,
            List.map_cons]
      | false =>
          rw [starts, if_neg Bool.false_ne_true] at read
          rw [List.filterMap_cons_none read, ih plain.2, List.filter_cons_of_neg (by simp [starts])]

/-! ## What is covered -/

namespace PermissionWatcher

variable {files : WatchedFiles} {selectors : List AppSelector} {marks : List FanotifyMark}

theorem markFile_eq_ok {path : PathBuf} {mark : FanotifyMark} :
    markFile files path = .ok mark ↔ ∃ canonical, files.canonicalize path = some canonical ∧
      files.takes (.file canonical (isPortableExecutable files canonical)) = true ∧
      .file canonical (isPortableExecutable files canonical) = mark := by
  rw [markFile]
  cases files.canonicalize path with
  | none => simp
  | some canonical =>
      cases taken : files.takes (.file canonical (isPortableExecutable files canonical)) with
      | true => simp [taken]
      | false => simp [taken]

/-- What a watcher with these marks is asked about. -/
structure Covers (files : WatchedFiles) (mounts : List Mount) (selectors : List AppSelector)
    (marks : List FanotifyMark) : Prop where
  /-- The file of every path is watched, and its opening if it starts through an emulator. -/
  paths : ∀ path, .exactPath path ∈ selectors → ∃ canonical,
    files.canonicalize path = some canonical ∧
      .file canonical (isPortableExecutable files canonical) ∈ marks
  /-- For a name, some mount is, and all those that the kernel marks. -/
  names : ∀ name, .processName name ∈ selectors →
    (∃ mount ∈ mounts, mount.startsPrograms = true ∧ .mount mount.point ∈ marks) ∧
    ∀ mount ∈ mounts, mount.startsPrograms = true → files.takes (.mount mount.point) = true →
      .mount mount.point ∈ marks
  /-- Nothing else is watched. -/
  only : ∀ mark ∈ marks, files.takes mark = true ∧
    ((∃ mount ∈ mounts, mount.startsPrograms = true ∧ mark = .mount mount.point) ∨
      ∃ path, .exactPath path ∈ selectors ∧ markFile files path = .ok mark)

theorem mem_markMounts {mounts : List Mount} (plain : ∀ mount ∈ mounts, mount.Plain)
    (shown : files.mountinfo = some (mountTable mounts)) {mark : FanotifyMark} :
    mark ∈ markMounts files selectors ↔ hasNames selectors = true ∧ files.takes mark = true ∧
      ∃ mount ∈ mounts, mount.startsPrograms = true ∧ mark = .mount mount.point := by
  rw [markMounts]
  cases hasNames selectors with
  | false => simp
  | true =>
      rw [if_pos rfl, shown, executableMountPoints_mountTable plain, List.mem_filter, List.map_map,
        List.mem_map]
      constructor
      · rintro ⟨⟨mount, member, rfl⟩, taken⟩
        rw [List.mem_filter] at member
        exact ⟨rfl, taken, mount, member.1, member.2, rfl⟩
      · rintro ⟨_, taken, mount, member, starts, rfl⟩
        exact ⟨⟨mount, List.mem_filter.2 ⟨member, starts⟩, rfl⟩, taken⟩

theorem mem_paths {path : PathBuf} :
    path ∈ selectors.filterMap pathOf ↔ .exactPath path ∈ selectors := by
  rw [List.mem_filterMap]
  constructor
  · rintro ⟨selector, member, isPath⟩
    cases selector with
    | exactPath other =>
        cases isPath
        exact member
    | processName name => cases isPath
  · exact fun member => ⟨_, member, rfl⟩

theorem installMarks_eq_ok :
    installMarks files selectors = .ok marks →
      (hasNames selectors = true → markMounts files selectors ≠ []) ∧
      ∃ paths, (selectors.filterMap pathOf).mapM (markFile files) = .ok paths ∧
        marks = markMounts files selectors ++ paths := by
  intro installed
  rw [installMarks] at installed
  by_cases opens : files.rootOpens = true
  · rw [if_neg (not_not.2 opens)] at installed
    by_cases nothing : hasNames selectors = true ∧ markMounts files selectors = []
    · rw [if_pos nothing] at installed
      cases installed
    · rw [if_neg nothing, bind_eq_ok] at installed
      obtain ⟨paths, marked, same⟩ := installed
      cases same
      exact ⟨fun names none => nothing ⟨names, none⟩, paths, marked, rfl⟩
  · rw [if_pos opens] at installed
    cases installed

/-- A watcher that starts is asked about every program that a rule gives the path of, and
about every program on the mounts that the kernel marks for it when a rule is a name. -/
theorem installMarks_covers {mounts : List Mount} (plain : ∀ mount ∈ mounts, mount.Plain)
    (shown : files.mountinfo = some (mountTable mounts))
    (installed : installMarks files selectors = .ok marks) :
    Covers files mounts selectors marks := by
  obtain ⟨some, paths, marked, rfl⟩ := installMarks_eq_ok installed
  have named {name : String} (member : .processName name ∈ selectors) :
      hasNames selectors = true :=
    List.any_eq_true.2 ⟨_, member, rfl⟩
  constructor
  · intro path member
    obtain ⟨mark, isMarked⟩ := forall_of_mapM marked path (mem_paths.2 member)
    have listed := (mem_of_mapM marked mark).2 ⟨path, mem_paths.2 member, isMarked⟩
    obtain ⟨canonical, found, _, rfl⟩ := markFile_eq_ok.1 isMarked
    exact ⟨canonical, found, List.mem_append_right _ listed⟩
  · intro name member
    constructor
    · obtain ⟨mark, listed⟩ := List.exists_mem_of_ne_nil _ (some (named member))
      obtain ⟨_, _, mount, known, starts, rfl⟩ := (mem_markMounts plain shown).1 listed
      exact ⟨mount, known, starts, List.mem_append_left _ listed⟩
    · intro mount known starts taken
      exact List.mem_append_left _
        ((mem_markMounts plain shown).2 ⟨named member, taken, mount, known, starts, rfl⟩)
  · intro mark listed
    cases List.mem_append.1 listed with
    | inl isMount =>
        obtain ⟨_, taken, found⟩ := (mem_markMounts plain shown).1 isMount
        exact ⟨taken, .inl found⟩
    | inr isFile =>
        obtain ⟨path, member, isMarked⟩ := (mem_of_mapM marked mark).1 isFile
        obtain ⟨canonical, found, taken, rfl⟩ := markFile_eq_ok.1 isMarked
        exact ⟨taken, .inr ⟨path, mem_paths.1 member, isMarked⟩⟩

def rootMount : Mount where
  numbers := ("25", "1", "8:1")
  root := "/"
  point := "/"
  options := ["rw", "relatime"]
  optional := ["shared:1"]
  fsType := "ext4"
  source := "/dev/sda1"
  superOptions := "rw"

theorem rootMount_plain : rootMount.Plain where
  left field member := by
    have all : (rootMount.leftFields.all fun field => (field != "" &&
        field.toList.all fun char => !isWhitespace char) && field != "-") = true := by
      decide +kernel
    have checked := List.all_eq_true.1 all field member
    rw [Bool.and_eq_true] at checked
    exact ⟨isWord_iff.2 checked.1, bne_iff_ne.1 checked.2⟩
  right field member := by
    have all : (rootMount.rightFields.all fun field => field != "" &&
        field.toList.all fun char => !isWhitespace char) = true := by
      decide +kernel
    exact isWord_iff.2 (List.all_eq_true.1 all field member)
  options := by simp [rootMount]
  point := by simp [rootMount, isWhitespace]

def desktopFiles : WatchedFiles where
  rootOpens := true
  mountinfo := some (mountTable [rootMount])
  canonicalize := some
  content := fun _ => none
  takes := fun _ => true

/-- A watcher for one name listens on the only mount. -/
theorem installMarks_covers_root :
    Covers desktopFiles [rootMount] [.processName "cs2"] [.mount "/"] := by
  have plain : ∀ mount ∈ [rootMount], mount.Plain := List.forall_mem_singleton.2 rootMount_plain
  have named : hasNames [.processName "cs2"] = true := rfl
  have marks : markMounts desktopFiles [.processName "cs2"] = [.mount "/"] := by
    rw [markMounts, if_pos named, desktopFiles, executableMountPoints_mountTable plain]
    rfl
  have installed : installMarks desktopFiles [.processName "cs2"] = .ok [.mount "/"] := by
    rw [installMarks, marks]
    rfl
  exact installMarks_covers plain rfl installed

end PermissionWatcher

end Varmlen.Daemon
