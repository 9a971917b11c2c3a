import Mathlib.Data.List.AList
import Mathlib.Data.List.Sort
import Mathlib.Algebra.BigOperators.Group.List.Basic
import Spotuify.SeekInputs

/-!
# Files of the cover cache

A cover is kept in a file that is named after a key of its address and the
type of the image.  A cover is looked up under each of its keys, and under
each key in a fixed order of the types.
-/

namespace Spotuify
namespace Covers

inductive ImageType where
  | jpg
  | png
  | webp
  deriving DecidableEq

def ImageType.extension : ImageType → String
  | .jpg => "jpg"
  | .png => "png"
  | .webp => "webp"

/-- The types in the order in which they are looked up. -/
def imageTypes : List ImageType := [.jpg, .png, .webp]

/-- The types that are looked up before a type. -/
def ImageType.earlier (type : ImageType) : List ImageType :=
  imageTypes.takeWhile (· ≠ type)

def extensionForContentType (contentType : String) : Option ImageType :=
  let first := trim (contentType.toList.takeWhile (· ≠ ';'))
  match String.ofList (first.map Char.toLower) with
  | "image/jpeg" | "image/jpg" => some .jpg
  | "image/png" => some .png
  | "image/webp" => some .webp
  | _ => none

/-- `str::rsplit_once`. -/
def rsplitOnce (pattern : List Char) :
    List Char → Option (List Char × List Char)
  | [] => none
  | char :: rest =>
    match rsplitOnce pattern rest with
    | some (before, after) => some (char :: before, after)
    | none => ((char :: rest).dropPrefix? pattern).map fun after => ([], after)

def spotifyImageId (url : String) : Option String :=
  match rsplitOnce "/image/".toList url.toList with
  | none => none
  | some (_, rest) =>
    let id := rest.takeWhile fun char => char ≠ '?' && char ≠ '#'
    if id.isEmpty || !id.all (fun char =>
        char.isAlphanum || char = '_' || char = '-') then none
    else some (String.ofList id)

structure CacheKeys where
  primary : String
  legacyHash : Option String
  deriving DecidableEq

def CacheKeys.single (primary : String) : CacheKeys := ⟨primary, none⟩

def CacheKeys.all (keys : CacheKeys) : List String :=
  keys.primary :: keys.legacyHash.toList

/-- `hashUrl` is the start of a digest of the address. -/
def cacheKeys (hashUrl : String → String) (url : String) : CacheKeys :=
  let legacyHash := hashUrl url
  match spotifyImageId url with
  | some imageId =>
    if imageId ≠ legacyHash then ⟨imageId, some legacyHash⟩
    else .single legacyHash
  | none => .single legacyHash

def fileName (key : String) (type : ImageType) : String :=
  key ++ "." ++ type.extension

/-- The names under a key, in the order in which they are looked up. -/
def fileNames (key : String) : List String := imageTypes.map (fileName key)

theorem fileName_inj {key : String} {first second : ImageType} :
    fileName key first = fileName key second ↔ first = second := by
  refine ⟨fun same => ?_, fun same => congrArg _ same⟩
  have sameExtension : first.extension = second.extension :=
    (String.append_right_inj _).mp same
  revert sameExtension
  cases first <;> cases second <;> decide

structure CoverFile where
  content : List UInt8
  mtime : Nat
  deriving DecidableEq

/-- The directory, by file names. -/
abbrev Directory : Type := AList fun _ : String => CoverFile

def isStale (file : CoverFile) (now ttl : Nat) : Bool :=
  if now < file.mtime then true else ttl < now - file.mtime

def pathExists (files : Directory) (name : String) : Bool :=
  (files.lookup name).isSome

/-- The first file there is under the keys. -/
def findExisting (files : Directory) (keys : CacheKeys) : Option String :=
  (keys.all.flatMap fileNames).find? (pathExists files)

/-- Remove files from the front until the rest is small enough. -/
def evictFrom (maxBytes : Nat) :
    List (Sigma fun _ : String => CoverFile) → Nat → Directory → Directory
  | [], _, files => files
  | entry :: rest, current, files =>
    if current ≤ maxBytes then files
    else
      evictFrom maxBytes rest (current - entry.2.content.length)
        (files.erase entry.1)

def totalBytes (files : Directory) : Nat :=
  (files.entries.map fun entry => entry.2.content.length).sum

/-- Whether a file is removed before another one. -/
def NotNewer (first second : Sigma fun _ : String => CoverFile) : Prop :=
  first.2.mtime ≤ second.2.mtime

instance : DecidableRel NotNewer :=
  fun first second =>
    inferInstanceAs (Decidable (first.2.mtime ≤ second.2.mtime))

def evictLru (maxBytes : Nat) (files : Directory) : Directory :=
  if totalBytes files ≤ maxBytes then files
  else
    evictFrom maxBytes (files.entries.insertionSort NotNewer)
      (totalBytes files) files

section

variable {files : Directory} {keys : CacheKeys} {name : String}

theorem findExisting_eq_or (files : Directory) (keys : CacheKeys) :
    findExisting files keys = (findExisting files (.single keys.primary)).or
      ((keys.legacyHash.toList.flatMap fileNames).find?
        (pathExists files)) := by
  simp only [findExisting, CacheKeys.all, CacheKeys.single, Option.toList_none,
    List.flatMap_cons, List.flatMap_nil, List.append_nil, List.find?_append]

theorem lookup_of_findExisting (found : findExisting files keys = some name) :
    ∃ file, files.lookup name = some file := by
  have isFound : pathExists files name = true := List.find?_some found
  exact Option.isSome_iff_exists.mp isFound

theorem mem_of_findExisting (found : findExisting files keys = some name) :
    name ∈ keys.all.flatMap fileNames :=
  List.mem_of_find?_eq_some found

/-- A file under the primary key is found first. -/
theorem findExisting_of_primary
    (found : findExisting files (.single keys.primary) = some name) :
    findExisting files keys = some name := by
  rw [findExisting_eq_or, found, Option.some_or]

theorem lookup_eq_none_of_single {key : String}
    (absent : findExisting files (.single key) = none)
    (isName : name ∈ fileNames key) : files.lookup name = none := by
  have noPath := List.find?_eq_none.mp absent name
    (by simpa [CacheKeys.all, CacheKeys.single] using isName)
  rwa [pathExists, Option.isSome_iff_ne_none, not_not] at noPath

/-- A name of the primary key that is found is found without the others. -/
theorem findExisting_primary (found : findExisting files keys = some name)
    (isPrimary : name ∈ fileNames keys.primary) :
    findExisting files (.single keys.primary) = some name := by
  cases primary : findExisting files (.single keys.primary) with
  | some other =>
    rw [findExisting_of_primary primary] at found
    exact found
  | none =>
    obtain ⟨file, isFile⟩ := lookup_of_findExisting found
    rw [lookup_eq_none_of_single primary isPrimary] at isFile
    cases isFile

theorem fileNames_eq (key : String) (type : ImageType) :
    ∃ later, fileNames key =
      type.earlier.map (fileName key) ++ fileName key type :: later := by
  cases type with
  | jpg => exact ⟨_, rfl⟩
  | png => exact ⟨_, rfl⟩
  | webp => exact ⟨_, rfl⟩

theorem not_mem_earlier (type : ImageType) : type ∉ type.earlier := by
  cases type <;> decide

/-- The file of a type is found exactly if no type before it has a file. -/
theorem findExisting_fileName {type : ImageType} {file : CoverFile}
    (isFile : files.lookup (fileName keys.primary type) = some file) :
    findExisting files keys = some (fileName keys.primary type) ↔
      ∀ earlier ∈ type.earlier,
        files.lookup (fileName keys.primary earlier) = none := by
  obtain ⟨later, names⟩ := fileNames_eq keys.primary type
  have isFound : pathExists files (fileName keys.primary type) = true := by
    rw [pathExists, isFile, Option.isSome_some]
  rw [findExisting, CacheKeys.all, List.flatMap_cons, names, List.append_assoc,
    List.cons_append, List.find?_append, List.find?_cons_of_pos isFound]
  cases found : (type.earlier.map (fileName keys.primary)).find?
      (pathExists files) with
  | none =>
    rw [Option.none_or, eq_self, true_iff]
    intro earlier isEarlier
    have absent := List.find?_eq_none.mp found _ (List.mem_map_of_mem isEarlier)
    rwa [pathExists, Option.isSome_iff_ne_none, not_not] at absent
  | some name =>
    obtain ⟨earlier, isEarlier, isName⟩ :=
      List.mem_map.mp (List.mem_of_find?_eq_some found)
    have isPath : pathExists files name = true := List.find?_some found
    rw [Option.some_or, Option.some.injEq, ← isName, fileName_inj]
    constructor
    · rintro rfl
      exact absurd isEarlier (not_mem_earlier _)
    · intro noEarlier
      rw [← isName, pathExists, noEarlier earlier isEarlier] at isPath
      cases isPath

end

section

variable {maxBytes : Nat} {files : Directory}

/-- What is left is as it was. -/
theorem lookup_evictFrom {name : String} {file : CoverFile}
    {candidates : List (Sigma fun _ : String => CoverFile)} {current : Nat}
    (isLeft : (evictFrom maxBytes candidates current files).lookup name =
      some file) : files.lookup name = some file := by
  induction candidates generalizing current files with
  | nil => exact isLeft
  | cons entry rest ih =>
    rw [evictFrom] at isLeft
    split at isLeft
    · exact isLeft
    · have wasLeft := ih isLeft
      by_cases isEntry : name = entry.1
      · rw [isEntry, AList.lookup_erase] at wasLeft
        cases wasLeft
      · rwa [AList.lookup_erase_ne isEntry] at wasLeft

theorem lookup_evictLru {name : String} {file : CoverFile}
    (isLeft : (evictLru maxBytes files).lookup name = some file) :
    files.lookup name = some file := by
  rw [evictLru] at isLeft
  split at isLeft
  · exact isLeft
  · exact lookup_evictFrom isLeft

/-- A file that is removed takes the older ones with it. -/
theorem lookup_evictFrom_older {removed older : String}
    {file olderFile : CoverFile}
    {candidates : List (Sigma fun _ : String => CoverFile)} {current : Nat}
    (sorted : candidates.Pairwise NotNewer)
    (distinct : candidates.NodupKeys)
    (complete : ∀ name kept, files.lookup name = some kept →
      ⟨name, kept⟩ ∈ candidates)
    (wasFile : files.lookup removed = some file)
    (isRemoved : (evictFrom maxBytes candidates current files).lookup removed =
      none)
    (isOlder : olderFile.mtime < file.mtime) :
    (evictFrom maxBytes candidates current files).lookup older ≠
      some olderFile := by
  induction candidates generalizing current files with
  | nil =>
    rw [evictFrom, wasFile] at isRemoved
    cases isRemoved
  | cons entry rest ih =>
    rw [evictFrom] at isRemoved ⊢
    split at isRemoved
    · rw [wasFile] at isRemoved
      cases isRemoved
    case isFalse tooLarge =>
      rw [if_neg tooLarge]
      obtain ⟨isFirst, restSorted⟩ := List.pairwise_cons.mp sorted
      obtain ⟨notAgain, restDistinct⟩ := List.nodupKeys_cons.mp distinct
      have stillComplete {name : String} {kept : CoverFile}
          (isKept : (files.erase entry.1).lookup name = some kept) :
          ⟨name, kept⟩ ∈ rest := by
        have notErased : name ≠ entry.1 := by
          rintro rfl
          rw [AList.lookup_erase] at isKept
          cases isKept
        rw [AList.lookup_erase_ne notErased] at isKept
        rcases List.mem_cons.mp (complete _ _ isKept) with isEntry | inRest
        · exact absurd (congrArg Sigma.fst isEntry) notErased
        · exact inRest
      intro isLeft
      have inRest := stillComplete (lookup_evictFrom isLeft)
      by_cases removesIt : removed = entry.1
      · have notOlder := isFirst _ inRest
        rcases List.mem_cons.mp (complete _ _ wasFile) with isEntry | again
        · rw [← isEntry] at notOlder
          exact absurd isOlder (Nat.not_lt.mpr notOlder)
        · rw [removesIt] at again
          exact absurd (List.mem_keys_of_mem again) notAgain
      · refine ih restSorted restDistinct (fun _ _ => stillComplete) ?_
          isRemoved isLeft
        rwa [AList.lookup_erase_ne removesIt]

theorem lookup_evictLru_older {removed older : String}
    {file olderFile : CoverFile}
    (wasFile : files.lookup removed = some file)
    (isRemoved : (evictLru maxBytes files).lookup removed = none)
    (isOlder : olderFile.mtime < file.mtime) :
    (evictLru maxBytes files).lookup older ≠ some olderFile := by
  rw [evictLru] at isRemoved ⊢
  split at isRemoved
  · rw [wasFile] at isRemoved
    cases isRemoved
  case isFalse tooLarge =>
    rw [if_neg tooLarge]
    have total : Std.Total NotNewer := ⟨fun first second => le_total _ _⟩
    have transitive : IsTrans _ NotNewer := ⟨fun _ _ _ => le_trans⟩
    have permutes := List.perm_insertionSort NotNewer files.entries
    refine lookup_evictFrom_older (List.pairwise_insertionSort NotNewer _)
      ((List.perm_nodupKeys permutes).mpr files.nodupKeys) ?_ wasFile isRemoved
      isOlder
    intro name kept isKept
    exact permutes.mem_iff.mpr (AList.mem_lookup_iff.mp isKept)

end

end Covers
end Spotuify
