import Mathlib.Data.List.Sort
import Mathlib.Data.Prod.Lex
import Thytrader.Basic
import Thytrader.Lib.Dict
import Thytrader.Lib.Rounding

/-!
# Dataset retention

`market_data/dataset_retention.py`: one bounded pass that unpublishes superseded dataset revisions
and removes the files no remaining revision lists. A dataset root holds the published manifests,
which the scan parses, and the data files by relative path, in one directory tree.

Mirroring notes: the advisory lock is the flag `acquired`; the reference scan and the
verifier are parameters of a pass, and either may raise (`none`). A verifier may answer
differently from call to call, so it is asked with the number of calls before. Instants
are exact; the sort keys go through `datetime.timestamp()`, a double, which is the parameter `stamp`
and, as the code runs, `timestamp`. A listed file is any relative path, another manifest's too.
Pruning empty directories removes no file and is left out.
-/

namespace Thytrader.MarketData

open Lib

/-! ## Roots -/

/-- A file below the root, by its canonical relative path. -/
structure DataFile where
  path : String
  deriving DecidableEq

/-- The identity of a series of revisions. -/
structure DatasetTarget where
  provider : String
  productId : String
  timeframe : String
  deriving DecidableEq

/-- `_ManifestFacts`, with the manifest's size. `_parse_manifest` refuses an empty range and derives
fingerprint and path from the digest. -/
structure ManifestFacts where
  digest : String
  target : DatasetTarget
  startsAt : Time
  endsAt : Time
  files : List DataFile
  publishedAt : Time
  size : Nat
  nonempty : startsAt < endsAt
  deriving DecidableEq

/-- `sha256:<digest>`. -/
def ManifestFacts.fingerprint (manifest : ManifestFacts) : String := "sha256:" ++ manifest.digest

/-- `manifests/<digest>.json`. -/
def ManifestFacts.path (manifest : ManifestFacts) : String :=
  "manifests/" ++ manifest.digest ++ ".json"

/-- A dataset root: the manifests it publishes, of distinct digests, the manifests no pass
can read, and the sizes of its other files. One path holds one file. -/
structure DatasetRoot where
  manifests : List ManifestFacts
  unreadable : Nat
  files : Dict DataFile Nat
  distinct : (manifests.map (·.digest)).Nodup
  apart : ∀ entry ∈ files.entries, ∀ manifest ∈ manifests, entry.1.path ≠ manifest.path

def DatasetRoot.unlink (root : DatasetRoot) (path : String) : DatasetRoot where
  manifests := root.manifests.filter (fun manifest => manifest.path ≠ path)
  unreadable := root.unreadable
  files := ⟨root.files.entries.filter (fun entry => entry.1.path ≠ path),
    (List.filter_sublist.map _).nodup root.files.nodup⟩
  distinct := (List.filter_sublist.map _).nodup root.distinct
  apart := fun entry hentry manifest hmanifest =>
    root.apart entry (List.mem_filter.mp hentry).1 manifest (List.mem_filter.mp hmanifest).1

/-- `path.stat().st_size`: the size of whatever file the path holds. -/
def DatasetRoot.sizeAt (root : DatasetRoot) (file : DataFile) : Option Nat :=
  (root.files.get? file).or
    ((root.manifests.find? (fun manifest => manifest.path = file.path)).map (·.size))

/-! ## Supersession -/

/-- `_covers`: `outer` contains the range of `inner` and supersedes it. -/
def covers (outer inner : ManifestFacts) : Bool :=
  let sameRange : Bool := outer.startsAt = inner.startsAt ∧ outer.endsAt = inner.endsAt
  outer.fingerprint ≠ inner.fingerprint ∧
    ¬ (inner.startsAt < outer.startsAt ∨ outer.endsAt < inner.endsAt) ∧
    (¬ sameRange ∨ inner.publishedAt < outer.publishedAt)

/-- `_wider`: the later end, then the later publication. -/
def wider (current : Option ManifestFacts) (candidate : ManifestFacts) : ManifestFacts :=
  match current with
  | none => candidate
  | some current =>
    if toLex (current.endsAt, current.publishedAt) <
      toLex (candidate.endsAt, candidate.publishedAt) then candidate else current

/-- `verify`: the answer of a call, after a number of earlier calls; `none` when it raises. -/
abbrev Verifier := Nat → String → Option Bool

/-- `_verified`: the cache after asking, and the answer. -/
def isVerified (verify : Verifier) (cache : Dict String Bool) (manifest : ManifestFacts) :
    Dict String Bool × Bool :=
  match cache.get? manifest.fingerprint with
  | some answer => (cache, answer)
  | none =>
    let answer := (verify cache.entries.length manifest.path).getD false
    (cache.set manifest.fingerprint answer, answer)

/-- The loop variables of `_eligible_in_group`, with the cache and what was yielded. -/
structure Sweep where
  bestAny : Option ManifestFacts := none
  bestOld : Option ManifestFacts := none
  bestMaximal : Option ManifestFacts := none
  verified : Dict String Bool
  eligible : List ManifestFacts := []

/-- The parameters of the sweep. -/
structure RetentionRules where
  referenced : List String
  verify : Verifier
  cutoff : Time

def sweepAnchor (rules : RetentionRules) (newest : Option ManifestFacts) (state : Sweep)
    (manifest : ManifestFacts) : Option ManifestFacts :=
  if some manifest.fingerprint ≠ newest.map (·.fingerprint) ∧
      manifest.fingerprint ∉ rules.referenced ∧
      state.bestOld.any (covers · manifest) then
    state.bestMaximal.filter (covers · manifest)
  else none

def sweepStep (rules : RetentionRules) (newest : Option ManifestFacts) (state : Sweep)
    (manifest : ManifestFacts) : Sweep :=
  let covered := state.bestAny.any (covers · manifest)
  let judged : Sweep :=
    if covered then
      match sweepAnchor rules newest state manifest with
      | none => state
      | some anchor =>
        let (cache, accepted) := isVerified rules.verify state.verified anchor
        { state with
          verified := cache
          eligible := if accepted then state.eligible ++ [manifest] else state.eligible }
    else { state with bestMaximal := some (wider state.bestMaximal manifest) }
  { judged with
    bestAny := some (wider state.bestAny manifest)
    bestOld := if manifest.publishedAt ≤ rules.cutoff then some (wider state.bestOld manifest)
      else state.bestOld }

/-- `datetime.timestamp()`: the seconds since the epoch, as a double. -/
def timestamp (instant : Time) : Decimal := roundTo 2 53 (instant / 1000000)

/-- The order of the sweep: start ascending, end and publication descending. -/
def sweepKey (stamp : Time → Decimal) (manifest : ManifestFacts) : Time ×ₗ Decimal ×ₗ Decimal :=
  toLex (manifest.startsAt, toLex (-stamp manifest.endsAt, -stamp manifest.publishedAt))

/-- What the newest manifest of a group is the first maximum of. -/
def newestKey (stamp : Time → Decimal) (manifest : ManifestFacts) : Time ×ₗ Decimal ×ₗ Time :=
  toLex (manifest.endsAt, toLex (-stamp manifest.startsAt, manifest.publishedAt))

/-- `max(group, key=…)`. -/
def newestOf (stamp : Time → Decimal) (group : List ManifestFacts) : Option ManifestFacts :=
  group.foldl (fun best manifest =>
    match best with
    | none => some manifest
    | some held => if newestKey stamp held < newestKey stamp manifest then some manifest else best)
    none

/-- `_eligible_in_group`, continuing the cache and the list of a pass. -/
def eligibleInGroup (stamp : Time → Decimal) (rules : RetentionRules)
    (found : Dict String Bool × List ManifestFacts) (group : List ManifestFacts) :
    Dict String Bool × List ManifestFacts :=
  let ordered := group.insertionSort (fun first second =>
    sweepKey stamp first ≤ sweepKey stamp second)
  let swept := ordered.foldl (sweepStep rules (newestOf stamp group)) { verified := found.1 }
  (swept.verified, found.2 ++ swept.eligible)

def byTarget (manifests : List ManifestFacts) : List (List ManifestFacts) :=
  (manifests.map (·.target)).eraseDups.map (fun target =>
    manifests.filter (fun manifest => manifest.target = target))

def eligibleManifests (stamp : Time → Decimal) (rules : RetentionRules)
    (manifests : List ManifestFacts) : Dict String Bool × List ManifestFacts :=
  (byTarget manifests).foldl (eligibleInGroup stamp rules) (.empty, [])

/-! ## Passes -/

inductive RetentionAbortReason where
  | unreadableManifests
  | referenceScanFailed
  | passInProgress
  deriving DecidableEq

structure RetentionReport where
  dryRun : Bool
  scannedManifests : Nat
  unreadableManifests : Nat
  referencedFingerprints : Nat
  retainedManifests : Nat
  eligibleManifests : Nat
  deletedManifests : Nat
  deletedFiles : Nat
  freedBytes : Nat
  truncated : Bool
  aborted : Option RetentionAbortReason := none
  deletedByTarget : Dict DatasetTarget Nat := .empty

def orphanedFiles (manifests selected : List ManifestFacts) : List DataFile :=
  let doomed := selected.map (·.fingerprint)
  let surviving := (manifests.filter (fun manifest => manifest.fingerprint ∉ doomed)).flatMap
    (·.files)
  ((selected.flatMap (·.files)).filter (fun file => file ∉ surviving)).dedup.insertionSort
    (fun first second => first.path ≤ second.path)

/-- `_delete`: unpublish the selected manifests, then remove the orphaned files. -/
def deleteSelected (root : DatasetRoot) (manifests selected : List ManifestFacts) :
    DatasetRoot × Nat × Nat :=
  let unpublished := selected.foldl (fun (state : DatasetRoot × Nat) manifest =>
    (state.1.unlink manifest.path, state.2 + manifest.size)) (root, 0)
  (orphanedFiles manifests selected).foldl (fun (state : DatasetRoot × Nat × Nat) file =>
    match state.1.sizeAt file with
    | none => state
    | some size => (state.1.unlink file.path, state.2.1 + 1, state.2.2 + size))
    (unpublished.1, 0, unpublished.2)

/-- The parameters of one pass. -/
structure RetentionPass where
  acquired : Bool
  references : Option (List String)
  verify : Verifier
  now : Time
  grace : Duration
  maxManifests : Nat
  dryRun : Bool

/-- `_scan_manifests`: the published manifests, in the order of their file names. -/
def scanManifests (root : DatasetRoot) : List ManifestFacts :=
  root.manifests.insertionSort (fun first second => first.path ≤ second.path)

/-- `_aborted`. -/
def abortedReport (dryRun : Bool) (reason : RetentionAbortReason) (scanned unreadable : Nat) :
    RetentionReport where
  dryRun := dryRun
  scannedManifests := scanned
  unreadableManifests := unreadable
  referencedFingerprints := 0
  retainedManifests := scanned
  eligibleManifests := 0
  deletedManifests := 0
  deletedFiles := 0
  freedBytes := 0
  truncated := false
  aborted := some reason

def RetentionPass.rules (pass : RetentionPass) (referenced : List String) : RetentionRules :=
  ⟨referenced, pass.verify, pass.now - pass.grace⟩

def selectedManifests (pass : RetentionPass) (eligible : List ManifestFacts) :
    List ManifestFacts :=
  (eligible.insertionSort (fun first second =>
    first.publishedAt < second.publishedAt ∨
      first.publishedAt = second.publishedAt ∧ first.fingerprint ≤ second.fingerprint)).take
    pass.maxManifests

def collect (stamp : Time → Decimal) (pass : RetentionPass) (root : DatasetRoot)
    (referenced : List String) : DatasetRoot × RetentionReport :=
  let manifests := scanManifests root
  let eligible := (eligibleManifests stamp (pass.rules referenced) manifests).2
  let selected := selectedManifests pass eligible
  let (root', deletedFiles, freed) :=
    if pass.dryRun then (root, 0, 0) else deleteSelected root manifests selected
  (root',
    { dryRun := pass.dryRun
      scannedManifests := manifests.length
      unreadableManifests := 0
      referencedFingerprints := referenced.dedup.length
      retainedManifests := manifests.length - selected.length
      eligibleManifests := eligible.length
      deletedManifests := if pass.dryRun then 0 else selected.length
      deletedFiles := deletedFiles
      freedBytes := freed
      truncated := selected.length < eligible.length
      deletedByTarget := selected.foldl (fun counts manifest =>
        counts.set manifest.target ((counts.get? manifest.target).getD 0 + 1)) .empty })

def collectSupersededDatasets (stamp : Time → Decimal) (pass : RetentionPass)
    (root : DatasetRoot) : Result (DatasetRoot × RetentionReport) :=
  if pass.maxManifests < 1 then
    .error (.valueError "Dataset retention needs a positive per-pass manifest bound.")
  else if ¬ pass.acquired then .ok (root, abortedReport pass.dryRun .passInProgress 0 0)
  else if 0 < root.unreadable then
    .ok (root, abortedReport pass.dryRun .unreadableManifests (scanManifests root).length
      root.unreadable)
  else
    match pass.references with
    | none =>
      .ok (root, abortedReport pass.dryRun .referenceScanFailed (scanManifests root).length 0)
    | some referenced => .ok (collect stamp pass root referenced)

end Thytrader.MarketData
