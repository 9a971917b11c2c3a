import Spotuify.CoverFiles
import Spotuify.GuardedMachine

/-!
# The cover cache

A cover that is in the cache is served at once.  When it is stale, a refresh
is spawned besides.  Fetches of one cover take turns by a lock, and each looks
again once it has the lock.  An accepted answer is written under the primary
key and the type of the answer.
-/

namespace Spotuify
namespace Covers

inductive CoverCacheError where
  | upstreamStatus (status : Nat)
  | unsupportedContentType (actual : String)
  | decodeFailed (message : String)
  | dimensionsTooSmall (width height : Nat)
  | bodyTooLarge (size max : Nat)
  | io (message : String)
  | http (message : String)
  deriving DecidableEq

structure CoverResponse where
  status : Nat
  contentType : Option String
  contentLength : Option Nat
  body : Except String (List UInt8)

/-- What `send` returns. -/
abbrev Upstream : Type := Except String CoverResponse

/-- The configuration, the digest of addresses and the image decoder, which
returns a width and a height. -/
structure CoverCache where
  ttl : Nat
  maxBytes : Nat
  hashUrl : String → String
  decodeImage : List UInt8 → Except String (Nat × Nat)

def maxCoverArtBytes : Nat := 10 * 1024 * 1024

def validateCoverBodySize (size : Nat) : Except CoverCacheError Unit :=
  if maxCoverArtBytes < size then .error (.bodyTooLarge size maxCoverArtBytes)
  else .ok ()

/-- The checks of `fetch_and_persist_inner` and `decode_and_write_cover`. -/
def CoverCache.accept (cache : CoverCache) (upstream : Upstream) :
    Except CoverCacheError (ImageType × List UInt8) := do
  let response ← upstream.mapError .http
  if response.status < 200 ∨ 300 ≤ response.status then
    throw (.upstreamStatus response.status)
  let contentType := response.contentType.getD ""
  let type ← match extensionForContentType contentType with
    | some type => .ok type
    | none => .error (.unsupportedContentType contentType)
  match response.contentLength with
  | some size => validateCoverBodySize size
  | none => .ok ()
  let bytes ← response.body.mapError .http
  validateCoverBodySize bytes.length
  if bytes.isEmpty then throw (.decodeFailed "empty body")
  let (width, height) ← (cache.decodeImage bytes).mapError .decodeFailed
  if width < 32 ∨ height < 32 then throw (.dimensionsTooSmall width height)
  return (type, bytes)

structure CoverCacheEntry where
  path : String
  cacheHit : Bool
  bytes : Nat
  fetchedAtMs : Option Nat
  deriving DecidableEq

/-- Who waits for the lock of a cover, or holds it. -/
inductive FetchTask where
  | refresh
  | firstFetch
  deriving DecidableEq

/-- A returned entry with the file behind it and the newest fetched file. -/
structure Served where
  entry : CoverCacheEntry
  file : CoverFile
  newest : Option (String × CoverFile)
  deriving DecidableEq

/-- The cache of one cover. -/
structure CoverState where
  clock : Nat
  files : Directory
  waiting : List FetchTask
  /-- the task that has the lock and fetches -/
  holder : Option FetchTask
  /-- what the calls of `get_or_fetch_entry` have returned -/
  returned : List (Except CoverCacheError Served)
  /-- the files written so far -/
  fetched : List (String × CoverFile)
  /-- how many fetches have started -/
  fetches : Nat

inductive CoverEvent where
  | get
  | acquire (index : Nat)
  | answer (upstream : Upstream) (writeFailure : Option String)

structure CoverAction where
  time : Nat
  event : CoverEvent

namespace CoverState

/-- `entry_for_path`, with what is returned recorded. -/
def serve (state : CoverState) (path : String) (cacheHit : Bool) :
    CoverState :=
  let result := match state.files.lookup path with
    | some file =>
      let fetchedAtMs := if file.mtime < 2 ^ 63 then some file.mtime else none
      .ok ⟨⟨path, cacheHit, file.content.length, fetchedAtMs⟩, file,
        state.fetched.getLast?⟩
    | none => .error (.io "No such file or directory")
  { state with returned := state.returned ++ [result] }

def fail (state : CoverState) (error : CoverCacheError) : CoverState :=
  { state with returned := state.returned ++ [.error error] }

def enqueue (state : CoverState) (task : FetchTask) : CoverState :=
  { state with waiting := state.waiting ++ [task] }

/-- The task that holds the lock fails. -/
def reject (state : CoverState) (task : FetchTask) (error : CoverCacheError) :
    CoverState :=
  match task with
  | .refresh => { state with holder := none }
  | .firstFetch => { state with holder := none }.fail error

def startFetch (state : CoverState) (task : FetchTask) : CoverState :=
  { state with holder := some task, fetches := state.fetches + 1 }

end CoverState

namespace CoverCache

variable (cache : CoverCache) (url : String)

def keys : CacheKeys := cacheKeys cache.hashUrl url

/-- Whether there is a file that is not stale. -/
def isFresh (state : CoverState) (path : String) : Bool :=
  match state.files.lookup path with
  | some file => !isStale file state.clock cache.ttl
  | none => false

def getOrFetchEntry (state : CoverState) : CoverState :=
  if url.isEmpty then state.fail (.unsupportedContentType "<empty url>")
  else
    match findExisting state.files (cache.keys url) with
    | some path =>
      if cache.isFresh state path then state.serve path true
      else (state.enqueue .refresh).serve path true
    | none => state.enqueue .firstFetch

/-- A task that has got the lock looks again. -/
def lookAgain (state : CoverState) (task : FetchTask) : CoverState :=
  match findExisting state.files (.single (cache.keys url).primary) with
  | none => state.startFetch task
  | some path =>
    match task with
    | .refresh =>
      if cache.isFresh state path then state else state.startFetch task
    | .firstFetch => state.serve path true

/-- The answer to a fetch is written and the lock is given back. -/
def persist (state : CoverState) (task : FetchTask)
    (accepted : ImageType × List UInt8) : CoverState :=
  let path := fileName (cache.keys url).primary accepted.1
  let file : CoverFile := ⟨accepted.2, state.clock⟩
  let written := { state with
    files := evictLru cache.maxBytes (state.files.insert path file)
    fetched := state.fetched ++ [(path, file)]
    holder := none }
  match task with
  | .refresh => written
  | .firstFetch => written.serve path false

def receive (state : CoverState) (task : FetchTask) (upstream : Upstream)
    (writeFailure : Option String) : CoverState :=
  match cache.accept upstream, writeFailure with
  | .error error, _ => state.reject task error
  | .ok _, some message => state.reject task (.io message)
  | .ok accepted, none => cache.persist url state task accepted

def stepNow (state : CoverState) : CoverEvent → Option CoverState
  | .get => some (cache.getOrFetchEntry url state)
  | .acquire index =>
    if state.holder.isNone then
      state.waiting[index]?.map fun task =>
        cache.lookAgain url
          { state with waiting := state.waiting.eraseIdx index } task
    else none
  | .answer upstream writeFailure =>
    state.holder.map fun task =>
      cache.receive url state task upstream writeFailure

def step (state : CoverState) (action : CoverAction) : Option CoverState :=
  if state.clock ≤ action.time then
    cache.stepNow url { state with clock := action.time } action.event
  else none

def machine : GuardedMachine CoverState CoverAction := ⟨cache.step url⟩

/-- The type under which an answer is written, if it is. -/
def writes : CoverEvent → Option ImageType
  | .answer upstream none => (cache.accept upstream).toOption.map Prod.fst
  | _ => none

/-- No file of the primary key is looked up before the one that is written. -/
def NotShadowed (state : CoverState) (action : CoverAction) : Prop :=
  ∀ type ∈ (cache.writes action.event).toList, ∀ earlier ∈ type.earlier,
    state.files.lookup (fileName (cache.keys url).primary earlier) = none

instance (state : CoverState) (action : CoverAction) :
    Decidable (cache.NotShadowed url state action) :=
  inferInstanceAs (Decidable (∀ type ∈ (cache.writes action.event).toList,
    ∀ earlier ∈ type.earlier, _ = none))

end CoverCache

/-- The cache when its process starts. -/
def CoverState.start (clock : Nat) (files : Directory) : CoverState :=
  ⟨clock, files, [], none, [], [], 0⟩

section

variable {cache : CoverCache} {url : String} {state : CoverState}

/-- Every name a cover can have. -/
def CoverCache.names (cache : CoverCache) (url : String) : List String :=
  (cache.keys url).all.flatMap fileNames

/-- Apart from the newest file all files of a cover are older, and the newest
file is found as long as any is. -/
structure ServesNewest (cache : CoverCache) (url : String)
    (state : CoverState) : Prop where
  emptyUrl : url.isEmpty = true → state.waiting = [] ∧ state.holder = none
  old : ∀ name ∈ cache.names url, ∀ file, state.files.lookup name = some file →
    file.mtime < state.clock ∨ state.fetched.getLast? = some (name, file)
  newest : ∀ name file, state.fetched.getLast? = some (name, file) →
    name ∈ fileNames (cache.keys url).primary ∧ file.mtime ≤ state.clock ∧
      ∀ path, findExisting state.files (cache.keys url) = some path →
        path = name ∧ state.files.lookup path = some file
  fetching : state.holder.isSome → ∀ name ∈ cache.names url, ∀ file,
    state.files.lookup name = some file → file.mtime < state.clock
  served : ∀ served, .ok served ∈ state.returned → ∀ newest,
    served.newest = some newest → served.file = newest.2

theorem ServesNewest.tick (serves : ServesNewest cache url state) {time : Nat}
    (later : state.clock ≤ time) :
    ServesNewest cache url { state with clock := time } where
  emptyUrl := serves.emptyUrl
  old := fun name isName file isFile =>
    (serves.old name isName file isFile).imp_left fun isOld =>
      isOld.trans_le later
  newest := fun name file isNewest => by
    obtain ⟨isName, notFuture, found⟩ := serves.newest name file isNewest
    exact ⟨isName, notFuture.trans later, found⟩
  fetching := fun isFetching name isName file isFile =>
    (serves.fetching isFetching name isName file isFile).trans_le later
  served := serves.served

/-- The file that is found is the newest one, if one was fetched. -/
theorem ServesNewest.file_eq (serves : ServesNewest cache url state)
    {path : String}
    (found : findExisting state.files (cache.keys url) = some path)
    {newest : String × CoverFile}
    (isNewest : state.fetched.getLast? = some newest) {file : CoverFile}
    (isFile : state.files.lookup path = some file) : file = newest.2 := by
  have newestFile := ((serves.newest newest.1 newest.2 isNewest).2.2 path found).2
  exact Option.some.inj (isFile.symm.trans newestFile)

theorem ServesNewest.serve (serves : ServesNewest cache url state)
    {path : String}
    (isNewest : ∀ newest, state.fetched.getLast? = some newest → ∀ file,
      state.files.lookup path = some file → file = newest.2)
    (cacheHit : Bool) :
    ServesNewest cache url (state.serve path cacheHit) := by
  refine ⟨serves.emptyUrl, serves.old, serves.newest, serves.fetching, ?_⟩
  intro served member newest fetched
  rcases List.mem_append.mp member with earlier | isLast
  · exact serves.served served earlier newest fetched
  · have isServed := List.mem_singleton.mp isLast
    cases isFile : state.files.lookup path with
    | none =>
      rw [isFile] at isServed
      cases isServed
    | some file =>
      rw [isFile] at isServed
      cases isServed
      exact isNewest newest fetched file isFile

theorem ServesNewest.fail (serves : ServesNewest cache url state)
    (error : CoverCacheError) : ServesNewest cache url (state.fail error) := by
  refine ⟨serves.emptyUrl, serves.old, serves.newest, serves.fetching, ?_⟩
  intro served member
  rcases List.mem_append.mp member with earlier | isLast
  · exact serves.served served earlier
  · cases List.mem_singleton.mp isLast

theorem ServesNewest.enqueue (serves : ServesNewest cache url state)
    (notEmpty : ¬url.isEmpty = true) (task : FetchTask) :
    ServesNewest cache url (state.enqueue task) :=
  ⟨fun isEmpty => absurd isEmpty notEmpty, serves.old, serves.newest,
    serves.fetching, serves.served⟩

theorem ServesNewest.getOrFetchEntry (serves : ServesNewest cache url state) :
    ServesNewest cache url (cache.getOrFetchEntry url state) := by
  rw [CoverCache.getOrFetchEntry]
  split
  · exact serves.fail _
  case isFalse notEmpty =>
    split
    case h_1 path found =>
      have isNewest (newest : String × CoverFile)
          (fetched : state.fetched.getLast? = some newest) (file : CoverFile) :
          state.files.lookup path = some file → file = newest.2 :=
        serves.file_eq found fetched
      split
      · exact serves.serve isNewest true
      · exact (serves.enqueue notEmpty .refresh).serve isNewest true
    case h_2 => exact serves.enqueue notEmpty .firstFetch

theorem ServesNewest.reject (serves : ServesNewest cache url state)
    (task : FetchTask) (error : CoverCacheError) :
    ServesNewest cache url (state.reject task error) := by
  have released : ServesNewest cache url { state with holder := none } :=
    ⟨fun isEmpty => ⟨(serves.emptyUrl isEmpty).1, rfl⟩, serves.old,
      serves.newest, nofun, serves.served⟩
  cases task with
  | refresh => exact released
  | firstFetch => exact released.fail error

theorem mtime_lt_of_isStale {file : CoverFile} {now ttl : Nat}
    (notFuture : file.mtime ≤ now) (stale : isStale file now ttl = true) :
    file.mtime < now := by
  rw [isStale, if_neg (Nat.not_lt.mpr notFuture), decide_eq_true_eq] at stale
  omega

/-- When a fetch starts the newest file is gone or stale, so all files are
old. -/
theorem ServesNewest.startFetch (serves : ServesNewest cache url state)
    (notEmpty : ¬url.isEmpty = true) (task : FetchTask)
    (notFresh : ∀ path,
      findExisting state.files (.single (cache.keys url).primary) = some path →
        cache.isFresh state path = false) :
    ServesNewest cache url (state.startFetch task) := by
  have allOld (name : String) (isName : name ∈ cache.names url)
      (file : CoverFile) (isFile : state.files.lookup name = some file) :
      file.mtime < state.clock := by
    rcases serves.old name isName file isFile with isOld | isNewest
    · exact isOld
    · obtain ⟨isPrimary, notFuture, found⟩ := serves.newest name file isNewest
      cases primary : findExisting state.files
          (.single (cache.keys url).primary) with
      | none =>
        rw [lookup_eq_none_of_single primary isPrimary] at isFile
        cases isFile
      | some path =>
        have isPath := (found path (findExisting_of_primary primary)).2
        have stale := notFresh path primary
        rw [CoverCache.isFresh, isPath] at stale
        exact mtime_lt_of_isStale notFuture (by simpa using stale)
  exact ⟨fun isEmpty => absurd isEmpty notEmpty, serves.old, serves.newest,
    fun _ => allOld, serves.served⟩

theorem ServesNewest.lookAgain (serves : ServesNewest cache url state)
    (notEmpty : ¬url.isEmpty = true) (task : FetchTask) :
    ServesNewest cache url (cache.lookAgain url state task) := by
  rw [CoverCache.lookAgain]
  split
  case h_1 absent =>
    apply serves.startFetch notEmpty
    intro path found
    rw [absent] at found
    cases found
  case h_2 path found =>
    cases task with
    | refresh =>
      simp only
      split
      · exact serves
      case isFalse notFresh =>
        apply serves.startFetch notEmpty
        intro other otherFound
        rw [found] at otherFound
        cases otherFound
        exact Bool.eq_false_iff.mpr notFresh
    | firstFetch =>
      exact serves.serve (fun newest fetched file =>
        serves.file_eq (findExisting_of_primary found) fetched) true

/-- Files that are left and were not written are as they were. -/
theorem lookup_before_persist {files : Directory} {written name : String}
    {file other : CoverFile} {maxBytes : Nat} (isOther : name ≠ written)
    (isLeft : (evictLru maxBytes (files.insert written file)).lookup name =
      some other) : files.lookup name = some other := by
  rw [← AList.lookup_insert_ne isOther]
  exact lookup_evictLru isLeft

/-- A file that was written is found unless it is evicted. -/
theorem findExisting_persist {files : Directory} {keys : CacheKeys}
    {type : ImageType} {file kept : CoverFile} {maxBytes : Nat}
    (notShadowed : ∀ earlier ∈ type.earlier,
      files.lookup (fileName keys.primary earlier) = none)
    (isKept : (evictLru maxBytes (files.insert (fileName keys.primary type)
      file)).lookup (fileName keys.primary type) = some kept) :
    findExisting
      (evictLru maxBytes (files.insert (fileName keys.primary type) file))
      keys = some (fileName keys.primary type) := by
  apply (findExisting_fileName isKept).mpr
  intro earlier isEarlier
  rw [Option.eq_none_iff_forall_ne_some]
  intro other isLeft
  have notWritten : fileName keys.primary earlier ≠
      fileName keys.primary type := by
    intro same
    rw [fileName_inj] at same
    rw [same] at isEarlier
    exact not_mem_earlier type isEarlier
  have absent := notShadowed earlier isEarlier
  rw [lookup_before_persist notWritten isLeft] at absent
  cases absent

/-- After an answer was written no other file of the cover is found, since
eviction removes older files first. -/
theorem found_after_persist {files : Directory} {keys : CacheKeys}
    {type : ImageType} {file : CoverFile} {maxBytes : Nat}
    (older : ∀ name ∈ keys.all.flatMap fileNames, ∀ other,
      files.lookup name = some other → other.mtime < file.mtime)
    (notShadowed : ∀ earlier ∈ type.earlier,
      files.lookup (fileName keys.primary earlier) = none) {path : String}
    (found : findExisting
      (evictLru maxBytes (files.insert (fileName keys.primary type) file))
      keys = some path) :
    path = fileName keys.primary type ∧
      (evictLru maxBytes
        (files.insert (fileName keys.primary type) file)).lookup path =
          some file := by
  have written : (files.insert (fileName keys.primary type) file).lookup
      (fileName keys.primary type) = some file :=
    AList.lookup_insert files
  cases isKept : (evictLru maxBytes (files.insert (fileName keys.primary type)
      file)).lookup (fileName keys.primary type) with
  | some kept =>
    have isFile : kept = file :=
      Option.some.inj ((lookup_evictLru isKept).symm.trans written)
    rw [findExisting_persist notShadowed isKept] at found
    obtain rfl := Option.some.inj found
    exact ⟨rfl, isKept.trans (congrArg some isFile)⟩
  | none =>
    obtain ⟨other, isLeft⟩ := lookup_of_findExisting found
    have notWritten : path ≠ fileName keys.primary type := by
      rintro rfl
      rw [isKept] at isLeft
      cases isLeft
    have isOlder := older path (mem_of_findExisting found) other
      (lookup_before_persist notWritten isLeft)
    exact absurd isLeft (lookup_evictLru_older written isKept isOlder)

theorem ServesNewest.persist (serves : ServesNewest cache url state)
    (isFetching : state.holder.isSome) (task : FetchTask)
    {accepted : ImageType × List UInt8}
    (notShadowed : ∀ earlier ∈ accepted.1.earlier, state.files.lookup
      (fileName (cache.keys url).primary earlier) = none) :
    ServesNewest cache url (cache.persist url state task accepted) := by
  have isLast : (cache.persist url state .refresh accepted).fetched.getLast? =
      some (fileName (cache.keys url).primary accepted.1,
        ⟨accepted.2, state.clock⟩) :=
    List.getLast?_concat
  have isWritten {file : CoverFile}
      (isLeft : (cache.persist url state .refresh accepted).files.lookup
        (fileName (cache.keys url).primary accepted.1) = some file) :
      ⟨accepted.2, state.clock⟩ = file := by
    have isFile := lookup_evictLru isLeft
    rw [AList.lookup_insert] at isFile
    exact Option.some.inj isFile
  have written :
      ServesNewest cache url (cache.persist url state .refresh accepted) := by
    refine ⟨fun isEmpty => ⟨(serves.emptyUrl isEmpty).1, rfl⟩, ?_, ?_, nofun,
      serves.served⟩
    · intro name isName file isLeft
      by_cases isPath : name = fileName (cache.keys url).primary accepted.1
      · right
        rw [isPath] at isLeft
        rw [isLast, isPath, isWritten isLeft]
      · left
        exact serves.fetching isFetching name isName file
          (lookup_before_persist isPath isLeft)
    · intro name file isNewest
      rw [isLast] at isNewest
      cases isNewest
      have isName : accepted.1 ∈ imageTypes := by
        cases accepted.1 <;> decide
      have isFound (path : String) := @found_after_persist state.files
        (cache.keys url) accepted.1 ⟨accepted.2, state.clock⟩ cache.maxBytes
        (serves.fetching isFetching) notShadowed path
      exact ⟨List.mem_map_of_mem isName, le_refl _, isFound⟩
  cases task with
  | refresh => exact written
  | firstFetch =>
    refine written.serve ?_ false
    intro newest fetched file isFile
    rw [isLast] at fetched
    cases fetched
    exact (isWritten isFile).symm

theorem ServesNewest.step (serves : ServesNewest cache url state)
    {action : CoverAction} {next : CoverState}
    (notShadowed : cache.NotShadowed url state action)
    (steps : (cache.machine url).step state action = some next) :
    ServesNewest cache url next := by
  obtain ⟨later, stepped⟩ := Option.ite_none_right_eq_some.mp steps
  have ticked := serves.tick later
  obtain ⟨time, event⟩ := action
  cases event with
  | get =>
    cases stepped
    exact ticked.getOrFetchEntry
  | acquire index =>
    obtain ⟨isFree, taken⟩ := Option.ite_none_right_eq_some.mp stepped
    obtain ⟨task, isWaiting, rfl⟩ := Option.map_eq_some_iff.mp taken
    have notEmpty : ¬url.isEmpty = true := by
      intro isEmpty
      have noTasks := (serves.emptyUrl isEmpty).1
      change state.waiting[index]? = some task at isWaiting
      rw [noTasks] at isWaiting
      cases isWaiting
    have withLock : ServesNewest cache url
        { state with
          clock := time
          waiting := state.waiting.eraseIdx index } :=
      ⟨fun isEmpty => absurd isEmpty notEmpty, ticked.old, ticked.newest,
        ticked.fetching, ticked.served⟩
    exact withLock.lookAgain notEmpty task
  | answer upstream writeFailure =>
    obtain ⟨task, isHolder, rfl⟩ := Option.map_eq_some_iff.mp stepped
    have isFetching : state.holder.isSome := by
      rw [Option.isSome_iff_exists]
      exact ⟨task, isHolder⟩
    cases isAccepted : cache.accept upstream with
    | error error =>
      simp only [CoverCache.receive, isAccepted]
      exact ticked.reject task error
    | ok accepted =>
      cases writeFailure with
      | some message =>
        simp only [CoverCache.receive, isAccepted]
        exact ticked.reject task _
      | none =>
        have isWritten : accepted.1 ∈
            (cache.writes (.answer upstream none)).toList := by
          simp [CoverCache.writes, isAccepted, Except.toOption]
        simp only [CoverCache.receive, isAccepted]
        exact ticked.persist isFetching task
          (notShadowed accepted.1 isWritten)

theorem start_servesNewest {clock : Nat} {files : Directory}
    (older : ∀ name file, files.lookup name = some file → file.mtime < clock) :
    ServesNewest cache url (.start clock files) where
  emptyUrl := fun _ => ⟨rfl, rfl⟩
  old := fun name _ file isFile => .inl (older name file isFile)
  newest := nofun
  fetching := nofun
  served := nofun

/-- Since a state only a file was served, and no fetch has started or been
asked for. -/
structure ServedSince (file : CoverFile) (base state : CoverState) : Prop where
  noFetch : state.fetches = base.fetches
  noRefresh : state.waiting.length ≤ base.waiting.length
  answers : ∃ later, state.returned = base.returned ++ later ∧
    ∀ result ∈ later, ∃ served, result = .ok served ∧ served.file = file

/-- The file that was fetched is found and no fetch is under way. -/
structure Settled (cache : CoverCache) (url path : String) (file : CoverFile)
    (base state : CoverState) : Prop extends ServedSince file base state where
  isFree : state.holder = none
  isFile : state.files.lookup path = some file
  isPrimary : path ∈ fileNames (cache.keys url).primary
  found : findExisting state.files (cache.keys url) = some path
  written : file.mtime ≤ state.clock

theorem Settled.isFresh {path : String} {file : CoverFile} {base : CoverState}
    (settled : Settled cache url path file base state)
    (within : state.clock ≤ file.mtime + cache.ttl) :
    cache.isFresh state path = true := by
  have notStale : ¬cache.ttl < state.clock - file.mtime := by
    omega
  rw [CoverCache.isFresh, settled.isFile]
  simp [isStale, Nat.not_lt.mpr settled.written, notStale]

theorem serve_eq {path : String} {file : CoverFile}
    (isFile : state.files.lookup path = some file) (cacheHit : Bool) :
    ∃ served, served.file = file ∧ state.serve path cacheHit =
      { state with returned := state.returned ++ [.ok served] } := by
  rw [CoverState.serve, isFile]
  exact ⟨_, rfl, rfl⟩

theorem Settled.serve {path : String} {file : CoverFile} {base : CoverState}
    (settled : Settled cache url path file base state) (cacheHit : Bool) :
    Settled cache url path file base (state.serve path cacheHit) := by
  obtain ⟨served, isServed, serves⟩ := serve_eq settled.isFile cacheHit
  obtain ⟨later, returned, onlyFile⟩ := settled.answers
  rw [serves]
  refine ⟨⟨settled.noFetch, settled.noRefresh, later ++ [.ok served], ?_, ?_⟩,
    settled.isFree, settled.isFile, settled.isPrimary, settled.found,
    settled.written⟩
  · rw [returned, List.append_assoc]
  · intro result member
    rcases List.mem_append.mp member with earlier | isLast
    · exact onlyFile result earlier
    · exact ⟨served, List.mem_singleton.mp isLast, isServed⟩

theorem clock_of_step {action : CoverAction} {next : CoverState}
    (steps : (cache.machine url).step state action = some next) :
    next.clock = action.time ∧ state.clock ≤ action.time := by
  obtain ⟨later, stepped⟩ := Option.ite_none_right_eq_some.mp steps
  refine ⟨?_, later⟩
  obtain ⟨time, event⟩ := action
  cases event with
  | get =>
    cases stepped
    rw [CoverCache.getOrFetchEntry]
    split
    · rfl
    · split
      · split <;> rfl
      · rfl
  | acquire index =>
    obtain ⟨isFree, taken⟩ := Option.ite_none_right_eq_some.mp stepped
    obtain ⟨task, isWaiting, rfl⟩ := Option.map_eq_some_iff.mp taken
    rw [CoverCache.lookAgain]
    split
    · rfl
    · cases task with
      | refresh =>
        simp only
        split <;> rfl
      | firstFetch => rfl
  | answer upstream writeFailure =>
    obtain ⟨task, isHolder, rfl⟩ := Option.map_eq_some_iff.mp stepped
    unfold CoverCache.receive
    split
    all_goals
      cases task <;> rfl

theorem Settled.step {path : String} {file : CoverFile} {base : CoverState}
    (settled : Settled cache url path file base state)
    (notEmpty : ¬url.isEmpty = true) {action : CoverAction}
    {next : CoverState} (within : action.time ≤ file.mtime + cache.ttl)
    (steps : (cache.machine url).step state action = some next) :
    Settled cache url path file base next := by
  obtain ⟨later, stepped⟩ := Option.ite_none_right_eq_some.mp steps
  obtain ⟨time, event⟩ := action
  have ticked : Settled cache url path file base { state with clock := time } :=
    ⟨⟨settled.noFetch, settled.noRefresh, settled.answers⟩, settled.isFree,
      settled.isFile, settled.isPrimary, settled.found,
      settled.written.trans later⟩
  cases event with
  | get =>
    cases stepped
    rw [CoverCache.getOrFetchEntry, if_neg notEmpty, ticked.found]
    simp only [ticked.isFresh within, if_true]
    exact ticked.serve true
  | acquire index =>
    obtain ⟨isFree, taken⟩ := Option.ite_none_right_eq_some.mp stepped
    obtain ⟨task, isWaiting, rfl⟩ := Option.map_eq_some_iff.mp taken
    have withLock : Settled cache url path file base
        { state with
          clock := time
          waiting := state.waiting.eraseIdx index } :=
      ⟨⟨ticked.noFetch, (List.length_eraseIdx_le ..).trans ticked.noRefresh,
        ticked.answers⟩, ticked.isFree, ticked.isFile, ticked.isPrimary,
        ticked.found, ticked.written⟩
    have primary := findExisting_primary withLock.found withLock.isPrimary
    rw [CoverCache.lookAgain, primary]
    cases task with
    | refresh =>
      simp only [withLock.isFresh within, if_true]
      exact withLock
    | firstFetch => exact withLock.serve true
  | answer upstream writeFailure =>
    obtain ⟨task, isHolder, rfl⟩ := Option.map_eq_some_iff.mp stepped
    rw [ticked.isFree] at isHolder
    cases isHolder

/-- A file that was fetched settles the cache if it is found first and was
not evicted. -/
theorem settled_of_fetch {time : Nat} {upstream : Upstream} {type : ImageType}
    {bytes : List UInt8} {next : CoverState}
    (isAccepted : cache.accept upstream = .ok (type, bytes))
    (notShadowed : cache.NotShadowed url state ⟨time, .answer upstream none⟩)
    (steps : (cache.machine url).step state ⟨time, .answer upstream none⟩ =
      some next)
    (isKept : next.files.lookup (fileName (cache.keys url).primary type) =
      some ⟨bytes, time⟩) :
    Settled cache url (fileName (cache.keys url).primary type) ⟨bytes, time⟩
      next next := by
  obtain ⟨later, stepped⟩ := Option.ite_none_right_eq_some.mp steps
  obtain ⟨task, isHolder, received⟩ := Option.map_eq_some_iff.mp stepped
  have isWritten : type ∈ (cache.writes (.answer upstream none)).toList := by
    simp [CoverCache.writes, isAccepted, Except.toOption]
  simp only [CoverCache.receive, isAccepted] at received
  have since : ServedSince ⟨bytes, time⟩ next next :=
    ⟨rfl, le_refl _, [], (List.append_nil _).symm, by simp⟩
  have isPrimary : fileName (cache.keys url).primary type ∈
      fileNames (cache.keys url).primary := by
    apply List.mem_map_of_mem
    cases type <;> decide
  cases task with
  | refresh =>
    cases received
    exact ⟨since, rfl, isKept, isPrimary,
      findExisting_persist (notShadowed type isWritten) isKept, le_refl _⟩
  | firstFetch =>
    cases received
    exact ⟨since, rfl, isKept, isPrimary,
      findExisting_persist (notShadowed type isWritten) isKept, le_refl _⟩

/-- Until it is stale, a file that was fetched is what is served, and nothing
is fetched. -/
theorem Settled.run {path : String} {file : CoverFile} {base final : CoverState}
    (settled : Settled cache url path file base base)
    (notEmpty : ¬url.isEmpty = true) {later : List CoverAction}
    (runs : (cache.machine url).run base later = some final)
    (within : final.clock ≤ file.mtime + cache.ttl) :
    ServedSince file base final := by
  have preserved : ∀ (state : CoverState) (action : CoverAction)
      (next : CoverState),
      (state.clock ≤ file.mtime + cache.ttl →
        Settled cache url path file base state) →
      (cache.machine url).step state action = some next →
      next.clock ≤ file.mtime + cache.ttl →
        Settled cache url path file base next := by
    intro state action next isSettled steps nextWithin
    obtain ⟨isTime, isLater⟩ := clock_of_step steps
    have stateSettled := isSettled (by omega)
    exact stateSettled.step notEmpty (by omega) steps
  exact ((cache.machine url).run_preserves preserved (fun _ => settled) runs
    within).toServedSince

theorem files_of_not_written {time : Nat} {upstream : Upstream}
    {writeFailure : Option String} {next : CoverState}
    (steps : (cache.machine url).step state
      ⟨time, .answer upstream writeFailure⟩ = some next)
    (notWritten : cache.writes (.answer upstream writeFailure) = none) :
    next.files = state.files := by
  obtain ⟨-, stepped⟩ := Option.ite_none_right_eq_some.mp steps
  obtain ⟨task, -, rfl⟩ := Option.map_eq_some_iff.mp stepped
  cases isAccepted : cache.accept upstream with
  | error error =>
    simp only [CoverCache.receive, isAccepted]
    cases task <;> rfl
  | ok accepted =>
    cases writeFailure with
    | some message =>
      simp only [CoverCache.receive, isAccepted]
      cases task <;> rfl
    | none =>
      rw [CoverCache.writes, isAccepted] at notWritten
      cases notWritten

/-- The content that is served, as far as no answer is written behind a file
of another type: it is never older than the newest fetched one; a fetch that
fails leaves the files as they are; and a fetched file that is not evicted is
served until it is stale, without another fetch. -/
theorem run_servesNewest {clock : Nat} {files : Directory}
    (older : ∀ name file, files.lookup name = some file → file.mtime < clock)
    {actions : List CoverAction}
    (runs : (cache.machine url).run (.start clock files) actions = some state)
    (meets : (cache.machine url).StepsMeet (cache.NotShadowed url)
      (.start clock files) actions) :
    (∀ served, .ok served ∈ state.returned → ∀ newest,
      served.newest = some newest → served.file = newest.2) ∧
    (∀ time upstream writeFailure next,
      (cache.machine url).step state ⟨time, .answer upstream writeFailure⟩ =
        some next →
      cache.writes (.answer upstream writeFailure) = none →
        next.files = state.files) ∧
    ∀ time upstream type bytes next,
      cache.accept upstream = .ok (type, bytes) →
      cache.NotShadowed url state ⟨time, .answer upstream none⟩ →
      (cache.machine url).step state ⟨time, .answer upstream none⟩ =
        some next →
      next.files.lookup (fileName (cache.keys url).primary type) =
        some ⟨bytes, time⟩ →
      ∀ later final, (cache.machine url).run next later = some final →
        final.clock ≤ time + cache.ttl →
          ServedSince ⟨bytes, time⟩ next final := by
  have preserved : ∀ (state : CoverState) (action : CoverAction)
      (next : CoverState), ServesNewest cache url state →
      cache.NotShadowed url state action →
      (cache.machine url).step state action = some next →
        ServesNewest cache url next :=
    fun _ _ _ serves notShadowed steps => serves.step notShadowed steps
  have serves := (cache.machine url).run_preserves_of_stepsMeet preserved
    (start_servesNewest older) meets runs
  refine ⟨serves.served, ?_, ?_⟩
  · intro time upstream writeFailure next steps notWritten
    exact files_of_not_written steps notWritten
  · intro time upstream type bytes next isAccepted notShadowed steps isKept
      later final laterRuns within
    have notEmpty : ¬url.isEmpty = true := by
      intro isEmpty
      have noHolder := (serves.emptyUrl isEmpty).2
      obtain ⟨-, stepped⟩ := Option.ite_none_right_eq_some.mp steps
      obtain ⟨task, isHolder, -⟩ := Option.map_eq_some_iff.mp stepped
      change state.holder = some task at isHolder
      rw [noHolder] at isHolder
      cases isHolder
    have settled := settled_of_fetch isAccepted notShadowed steps isKept
    exact settled.run notEmpty laterRuns within

end

/-- A cache of covers that stay fresh for ten units of time. -/
def smallCache : CoverCache where
  ttl := 10
  maxBytes := 1000
  hashUrl := fun _ => "c0ffee"
  decodeImage := fun _ => .ok (64, 64)

def answerOf (contentType : String) (content : List UInt8) : CoverEvent :=
  .answer (.ok ⟨200, some contentType, none, .ok content⟩) none

/-- A stale cover is refreshed with one of the same type. -/
theorem run_servesNewest_of_refresh :
    ∃ state, (smallCache.machine "u").run
        (.start 100 (AList.singleton "c0ffee.png" ⟨[1], 0⟩))
        [⟨100, .get⟩, ⟨100, .acquire 0⟩, ⟨101, answerOf "image/png" [2]⟩,
          ⟨102, .get⟩] = some state ∧
      ∀ served, .ok served ∈ state.returned → ∀ newest,
        served.newest = some newest → served.file = newest.2 := by
  have ends : ((smallCache.machine "u").run
      (.start 100 (AList.singleton "c0ffee.png" ⟨[1], 0⟩))
      [⟨100, .get⟩, ⟨100, .acquire 0⟩, ⟨101, answerOf "image/png" [2]⟩,
        ⟨102, .get⟩]).isSome = true := by
    decide +kernel
  obtain ⟨state, runs⟩ := Option.isSome_iff_exists.mp ends
  have older (name : String) (file : CoverFile)
      (isFile : (AList.singleton "c0ffee.png" ⟨[1], 0⟩ : Directory).lookup
        name = some file) : file.mtime < 100 := by
    have isEntry := AList.mem_lookup_iff.mp isFile
    cases List.mem_singleton.mp isEntry
    decide
  exact ⟨state, runs, (run_servesNewest older runs (by decide +kernel)).1⟩

/-- A stale cover is refreshed with one of a type that is looked up later: the
stale one is served on, and refreshed again. -/
theorem refreshed_cover_not_served :
    ((smallCache.machine "u").run
        (.start 100 (AList.singleton "c0ffee.jpg" ⟨[1], 0⟩))
        [⟨100, .get⟩, ⟨100, .acquire 0⟩, ⟨101, answerOf "image/png" [2]⟩,
          ⟨102, .get⟩]).map (fun state =>
      (state.returned.getLast?.map fun result =>
          result.toOption.map fun served => served.file.content,
        state.fetched.getLast?.map fun written => written.2.content,
        state.waiting)) =
    some (some (some [1]), some [2], [.refresh]) := by
  decide +kernel

end Covers
end Spotuify
