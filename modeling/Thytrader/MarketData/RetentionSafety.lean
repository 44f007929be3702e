import Mathlib.Data.List.MinMax
import Thytrader.Lib.Transition
import Thytrader.MarketData.DatasetRetention

/-!
# Dataset retention loses no data

The sweep judges each manifest of a target once, against three running maxima. Whatever the order it
runs in, a manifest it yields was covered by `bestMaximal`, and that anchor was itself judged
uncovered, so it is never yielded (`SweepInv`). A pass therefore removes a manifest only while a
verified one of the same target and at least its range stays (`retention_keeps_data`).
-/

namespace Thytrader.MarketData

open Lib List ManifestFacts String

variable {first second manifest : ManifestFacts}

/-! ## Names -/

theorem fingerprint_inj :
    first.fingerprint = second.fingerprint ↔ first.digest = second.digest := by
  refine ⟨fun h => ?_, fun h => by rw [fingerprint, h]; rfl⟩
  have hchars := congrArg toList h
  simp only [fingerprint, toList_append] at hchars
  exact toList_injective (append_cancel_left hchars)

theorem path_inj : first.path = second.path ↔ first.digest = second.digest := by
  refine ⟨fun h => ?_, fun h => by rw [path, h]; rfl⟩
  have hchars := congrArg toList h
  simp only [path, toList_append] at hchars
  exact toList_injective (append_cancel_left (append_cancel_right hchars))

theorem dataFile_eq {first second : DataFile} (h : first.path = second.path) : first = second := by
  cases first
  cases second
  simpa using h

theorem nodup_eraseDups {α : Type} [DecidableEq α] (items : List α) : items.eraseDups.Nodup := by
  induction hlength : items.length using Nat.strong_induction_on generalizing items with
  | _ length ih =>
    cases items with
    | nil => exact nodup_nil
    | cons first rest =>
      rw [eraseDups_cons, nodup_cons]
      constructor
      · simp [mem_eraseDups]
      · refine ih _ ?_ (rest.filter (fun other => !other == first)) rfl
        have hle := length_filter_le (fun other => !other == first) rest
        simp only [length_cons] at hlength
        omega

/-! ## Verification -/

section

variable {verify : Verifier} {cache cache' : Dict String Bool}

/-- Each answer of the cache is the one the verifier gave at its place in the pass. -/
def Answered (verify : Verifier) (cache : Dict String Bool) : Prop :=
  ∀ (call : Nat) (manifest : ManifestFacts),
    cache.entries[call]? = some (manifest.fingerprint, true) → verify call manifest.path = some true

def Accepted (verify : Verifier) (cache : Dict String Bool) (manifest : ManifestFacts) : Prop :=
  ∃ call : Nat, cache.entries[call]? = some (manifest.fingerprint, true) ∧
    verify call manifest.path = some true

/-- A cache only grows: the calls of a pass keep their places. -/
def Grows (cache cache' : Dict String Bool) : Prop := cache.entries <+: cache'.entries

theorem Accepted.grows (h : Accepted verify cache manifest) (hgrows : Grows cache cache') :
    Accepted verify cache' manifest := by
  obtain ⟨call, hcall, haccepted⟩ := h
  obtain ⟨later, hlater⟩ := hgrows
  refine ⟨call, ?_, haccepted⟩
  rw [← hlater, getElem?_append_left (List.getElem?_eq_some_iff.mp hcall).1, hcall]

theorem isVerified_spec (h : Answered verify cache) (manifest : ManifestFacts) :
    Answered verify (isVerified verify cache manifest).1 ∧
      Grows cache (isVerified verify cache manifest).1 ∧
      ((isVerified verify cache manifest).2 = true →
        Accepted verify (isVerified verify cache manifest).1 manifest) := by
  cases hcached : cache.get? manifest.fingerprint with
  | some =>
    simp only [isVerified, hcached]
    refine ⟨h, prefix_refl _, ?_⟩
    intro hyes
    subst hyes
    obtain ⟨call, hcall⟩ := mem_iff_getElem?.mp (Dict.get?_eq_some_iff.mp hcached)
    exact ⟨call, hcall, h call manifest hcall⟩
  | none =>
    simp only [isVerified, hcached]
    have hentries := Dict.entries_set_of_absent hcached
      ((verify cache.entries.length manifest.path).getD false)
    -- the new answer stands at the place of the call it came from
    have hanswer (other : ManifestFacts) (hother : other.fingerprint = manifest.fingerprint)
        (hyes : (verify cache.entries.length manifest.path).getD false = true) :
        verify cache.entries.length other.path = some true := by
      rw [path_inj.mpr (fingerprint_inj.mp hother)]
      cases hraw : verify cache.entries.length manifest.path with
      | none => rw [hraw] at hyes; cases hyes
      | some => rw [hraw] at hyes; exact congrArg some hyes
    refine ⟨?_, ?_, ?_⟩
    · intro call other hcall
      rw [hentries] at hcall
      rcases Nat.lt_or_ge call cache.entries.length with hold | hnew
      · rw [getElem?_append_left hold] at hcall
        exact h call other hcall
      · rw [getElem?_append_right hnew, getElem?_singleton] at hcall
        obtain ⟨hzero, hcall⟩ := of_ite_ne_else hcall (fun hne => by cases hne)
        obtain ⟨hname, hyes⟩ := Prod.mk.inj (Option.some.inj hcall)
        obtain rfl : call = cache.entries.length := by omega
        exact hanswer other hname.symm hyes
    · exact ⟨_, hentries.symm⟩
    · intro hyes
      refine ⟨cache.entries.length, ?_, hanswer manifest rfl hyes⟩
      rw [hentries, getElem?_append_right le_rfl, Nat.sub_self, hyes]
      rfl

end

/-! ## The sweep -/

section

variable {rules : RetentionRules} {newest : Option ManifestFacts}

/-- After some manifests: what the sweep yielded is unreferenced and covered by an accepted manifest
of the group that it did not yield. -/
structure SweepInv (rules : RetentionRules) (processed : List ManifestFacts) (state : Sweep) :
    Prop where
  answered : Answered rules.verify state.verified
  maximal : ∀ anchor ∈ state.bestMaximal, anchor ∈ processed ∧ anchor ∉ state.eligible
  within : ∀ manifest ∈ state.eligible, manifest ∈ processed
  unreferenced : ∀ manifest ∈ state.eligible, manifest.fingerprint ∉ rules.referenced
  anchored : ∀ manifest ∈ state.eligible, ∃ anchor ∈ processed, anchor ∉ state.eligible ∧
    covers anchor manifest = true ∧ Accepted rules.verify state.verified anchor

theorem wider_eq (current : Option ManifestFacts) (candidate : ManifestFacts) :
    wider current candidate = candidate ∨ some (wider current candidate) = current := by
  cases current with
  | none => exact .inl rfl
  | some =>
    simp only [wider]
    split
    · exact .inl rfl
    · exact .inr rfl

variable {state : Sweep} {processed : List ManifestFacts}

theorem sweepAnchor_eq_some {anchor : ManifestFacts}
    (h : sweepAnchor rules newest state manifest = some anchor) :
    manifest.fingerprint ∉ rules.referenced ∧ anchor ∈ state.bestMaximal ∧
      covers anchor manifest = true := by
  obtain ⟨hguard, h⟩ := of_ite_ne_else h nofun
  rw [Option.filter_eq_some_iff] at h
  exact ⟨hguard.2.1, h.1, h.2⟩

/-- Judging one manifest: an uncovered one may become the anchor of later ones and is not yielded, a
yielded one has the present anchor. -/
theorem SweepInv.step (h : SweepInv rules processed state) (hnew : manifest ∉ processed) :
    SweepInv rules (processed ++ [manifest]) (sweepStep rules newest state manifest) ∧
      Grows state.verified (sweepStep rules newest state manifest).verified := by
  have hkept : SweepInv rules (processed ++ [manifest]) state :=
    { answered := h.answered
      maximal := fun anchor hanchor =>
        ⟨mem_append_left _ (h.maximal anchor hanchor).1, (h.maximal anchor hanchor).2⟩
      within := fun other hother => mem_append_left _ (h.within other hother)
      unreferenced := h.unreferenced
      anchored := by
        intro other hother
        obtain ⟨anchor, hanchor, hrest⟩ := h.anchored other hother
        exact ⟨anchor, mem_append_left _ hanchor, hrest⟩ }
  have hfresh : manifest ∉ state.eligible := fun hmem => hnew (h.within manifest hmem)
  by_cases hcovered : state.bestAny.any (covers · manifest) = true
  · cases hanchor : sweepAnchor rules newest state manifest with
    | none =>
      simp only [sweepStep, hcovered, hanchor, if_true]
      exact ⟨⟨hkept.answered, hkept.maximal, hkept.within, hkept.unreferenced, hkept.anchored⟩,
        prefix_refl _⟩
    | some anchor =>
      obtain ⟨hunreferenced, hmaximal, hcovers⟩ := sweepAnchor_eq_some hanchor
      obtain ⟨hold, hunyielded⟩ := h.maximal anchor hmaximal
      obtain ⟨hanswered, hgrows, haccepted⟩ := isVerified_spec h.answered anchor
      simp only [sweepStep, hcovered, hanchor, if_true]
      generalize isVerified rules.verify state.verified anchor = asked at *
      -- the anchor was judged before this manifest, so it is another one
      have hstays : ∀ other ∈ processed, other ∉ state.eligible →
          other ∉ (if asked.2 then state.eligible ++ [manifest] else state.eligible) := by
        intro other hprocessed hout
        have hne : other ≠ manifest := fun heq => hnew (heq ▸ hprocessed)
        split
        · simp [hout, hne]
        · exact hout
      have hyielded : ∀ other ∈ (if asked.2 then state.eligible ++ [manifest] else state.eligible),
          other ∈ state.eligible ∨ other = manifest ∧ asked.2 = true := by
        intro other hother
        split at hother
        next hyes =>
          rcases mem_append.mp hother with hother | hother
          · exact .inl hother
          · exact .inr ⟨mem_singleton.mp hother, hyes⟩
        · exact .inl hother
      refine ⟨⟨hanswered, ?_, ?_, ?_, ?_⟩, hgrows⟩
      · intro held hheld
        obtain ⟨hprocessed, hout⟩ := h.maximal held hheld
        exact ⟨mem_append_left _ hprocessed, hstays held hprocessed hout⟩
      · intro other hother
        rcases hyielded other hother with hother | ⟨rfl, -⟩
        · exact hkept.within other hother
        · exact mem_append_right _ (mem_singleton_self _)
      · intro other hother
        rcases hyielded other hother with hother | ⟨rfl, -⟩
        · exact h.unreferenced other hother
        · exact hunreferenced
      · intro other hother
        rcases hyielded other hother with hother | ⟨rfl, hyes⟩
        · obtain ⟨held, hprocessed, hout, hcover, hyes⟩ := h.anchored other hother
          exact ⟨held, mem_append_left _ hprocessed, hstays held hprocessed hout, hcover,
            hyes.grows hgrows⟩
        · exact ⟨anchor, mem_append_left _ hold, hstays anchor hold hunyielded, hcovers,
            haccepted hyes⟩
  · simp only [sweepStep, hcovered]
    refine ⟨⟨hkept.answered, ?_, hkept.within, hkept.unreferenced, hkept.anchored⟩, prefix_refl _⟩
    intro anchor hanchor
    cases hanchor
    rcases wider_eq state.bestMaximal manifest with heq | heq
    · rw [heq]
      exact ⟨mem_append_right _ (mem_singleton_self _), hfresh⟩
    · exact hkept.maximal _ heq.symm

theorem SweepInv.foldl {rest : List ManifestFacts} (h : SweepInv rules processed state)
    (newest : Option ManifestFacts) (hnodup : (processed ++ rest).Nodup) :
    SweepInv rules (processed ++ rest) (rest.foldl (sweepStep rules newest) state) ∧
      Grows state.verified (rest.foldl (sweepStep rules newest) state).verified := by
  induction rest generalizing processed state with
  | nil =>
    rw [append_nil]
    exact ⟨h, prefix_refl _⟩
  | cons manifest _ ih =>
    have hnew : manifest ∉ processed := by
      intro hmem
      exact (nodup_append.mp hnodup).2.2 manifest hmem manifest (by simp) rfl
    obtain ⟨hnext, hgrows⟩ := h.step hnew
    rw [append_cons] at hnodup ⊢
    obtain ⟨hlast, hlater⟩ := ih hnext hnodup
    exact ⟨hlast, hgrows.trans hlater⟩

end

/-! ## Groups -/

/-- What a pass knows after some groups. -/
structure GroupsInv (rules : RetentionRules) (manifests : List ManifestFacts)
    (targets : List DatasetTarget) (found : Dict String Bool × List ManifestFacts) : Prop where
  answered : Answered rules.verify found.1
  within : ∀ manifest ∈ found.2, manifest ∈ manifests ∧ manifest.target ∈ targets
  unreferenced : ∀ manifest ∈ found.2, manifest.fingerprint ∉ rules.referenced
  anchored : ∀ manifest ∈ found.2, ∃ anchor ∈ manifests, anchor ∉ found.2 ∧
    anchor.target = manifest.target ∧ covers anchor manifest = true ∧
    Accepted rules.verify found.1 anchor

variable {manifests : List ManifestFacts} {stamp : Time → Decimal} {target : DatasetTarget}
  {other : ManifestFacts} {pass : RetentionPass}

theorem GroupsInv.step {rules : RetentionRules} {targets : List DatasetTarget}
    {found : Dict String Bool × List ManifestFacts} (h : GroupsInv rules manifests targets found)
    (hnodup : manifests.Nodup) (hnew : target ∉ targets) :
    GroupsInv rules manifests (targets ++ [target])
      (eligibleInGroup stamp rules found
        (manifests.filter (fun manifest => manifest.target = target))) := by
  have hperm := perm_insertionSort (fun first second => sweepKey stamp first ≤ sweepKey stamp second)
    (manifests.filter (fun manifest => manifest.target = target))
  have hstart : SweepInv rules [] { verified := found.1 } :=
    ⟨h.answered, by simp, by simp, by simp, by simp⟩
  obtain ⟨hswept, hgrows⟩ := hstart.foldl
    (newestOf stamp (manifests.filter (fun manifest => manifest.target = target)))
    (by rw [nil_append]; exact hperm.nodup_iff.mpr (hnodup.filter _))
  have hgroup : ∀ manifest ∈ (manifests.filter (fun manifest => manifest.target = target)).insertionSort
      (fun first second => sweepKey stamp first ≤ sweepKey stamp second),
      manifest ∈ manifests ∧ manifest.target = target := by
    intro manifest hmem
    simpa using (hperm.mem_iff.mp hmem)
  unfold eligibleInGroup
  simp only
  generalize List.foldl _ _ _ = swept at *
  refine ⟨hswept.answered, ?_, ?_, ?_⟩
  · intro manifest hmem
    rcases mem_append.mp hmem with hold | hyielded
    · exact ⟨(h.within manifest hold).1, mem_append_left _ (h.within manifest hold).2⟩
    · obtain ⟨hlisted, htarget⟩ := hgroup manifest (hswept.within manifest hyielded)
      exact ⟨hlisted, mem_append_right _ (mem_singleton.mpr htarget)⟩
  · intro manifest hmem
    rcases mem_append.mp hmem with hold | hyielded
    · exact h.unreferenced manifest hold
    · exact hswept.unreferenced manifest hyielded
  · intro manifest hmem
    rcases mem_append.mp hmem with hold | hyielded
    · -- the anchors of earlier groups have other targets, so this group yields none of them
      obtain ⟨anchor, hlisted, hout, hsame, hcover, hyes⟩ := h.anchored manifest hold
      refine ⟨anchor, hlisted, ?_, hsame, hcover, hyes.grows hgrows⟩
      intro hanchor
      rcases mem_append.mp hanchor with hanchor | hanchor
      · exact hout hanchor
      · have htarget := (hgroup anchor (hswept.within anchor hanchor)).2
        exact hnew (htarget ▸ hsame ▸ (h.within manifest hold).2)
    · obtain ⟨anchor, hprocessed, hout, hcover, hyes⟩ := hswept.anchored manifest hyielded
      obtain ⟨hlisted, htarget⟩ := hgroup anchor hprocessed
      have hmine := (hgroup manifest (hswept.within manifest hyielded)).2
      refine ⟨anchor, hlisted, ?_, htarget.trans hmine.symm, hcover, hyes⟩
      intro hanchor
      rcases mem_append.mp hanchor with hanchor | hanchor
      · exact hnew (htarget ▸ (h.within anchor hanchor).2)
      · exact hout hanchor

/-- The eligible manifests of a pass are unreferenced, and each has an accepted anchor of its
target that is not eligible itself. -/
theorem eligibleManifests_inv (stamp : Time → Decimal) (rules : RetentionRules)
    (hnodup : manifests.Nodup) :
    GroupsInv rules manifests (manifests.map (·.target)).eraseDups
      (eligibleManifests stamp rules manifests) := by
  have hrun (targets done : List DatasetTarget) (found : Dict String Bool × List ManifestFacts)
      (h : GroupsInv rules manifests done found) (hfresh : (done ++ targets).Nodup) :
      GroupsInv rules manifests (done ++ targets) ((targets.map (fun target =>
        manifests.filter (fun manifest => manifest.target = target))).foldl
          (eligibleInGroup stamp rules) found) := by
    induction targets generalizing done found with
    | nil => rwa [append_nil]
    | cons target _ ih =>
      have hnew : target ∉ done := by
        intro hmem
        exact (nodup_append.mp hfresh).2.2 target hmem target (by simp) rfl
      rw [append_cons] at hfresh ⊢
      rw [map_cons, foldl_cons]
      exact ih _ _ (h.step hnodup hnew) hfresh
  exact hrun _ [] (.empty, []) ⟨by intro call manifest hcall; simp [Dict.empty] at hcall, by simp,
    by simp, by simp⟩ (nodup_eraseDups _)

/-! ## Deletion -/

namespace DatasetRoot

variable (root : DatasetRoot)

theorem unlink_manifest :
    other ∈ (root.unlink manifest.path).manifests ↔
      other ∈ root.manifests ∧ other.digest ≠ manifest.digest := by
  simp [unlink, path_inj]

theorem get?_unlink_manifest (file : DataFile)
    (h : ∀ entry ∈ root.files.entries, entry.1.path ≠ manifest.path) :
    (root.unlink manifest.path).files.get? file = root.files.get? file := by
  have hkeep : root.files.entries.filter (fun entry => entry.1.path ≠ manifest.path) =
      root.files.entries := filter_eq_self.mpr fun entry hentry => decide_eq_true (h entry hentry)
  simp only [unlink, hkeep]

theorem manifests_unlink_file {file : DataFile}
    (h : ∀ manifest ∈ root.manifests, manifest.path ≠ file.path) :
    (root.unlink file.path).manifests = root.manifests :=
  filter_eq_self.mpr fun manifest hmanifest => decide_eq_true (h manifest hmanifest)

theorem sizeAt_eq {file : DataFile}
    (h : ∀ manifest ∈ root.manifests, manifest.path ≠ file.path) :
    root.sizeAt file = root.files.get? file := by
  have hnone : root.manifests.find? (fun manifest => manifest.path = file.path) = none :=
    find?_eq_none.mpr fun manifest hmanifest => by simpa using h manifest hmanifest
  rw [sizeAt, hnone, Option.map_none, Option.or_none]

theorem get?_unlink_file (file other : DataFile) :
    (root.unlink file.path).files.get? other =
      if other = file then none else root.files.get? other := by
  by_cases hsame : other = file
  · rw [if_pos hsame, Dict.get?_eq_none_iff]
    intro size hentry
    simp only [unlink, mem_filter, decide_eq_true_eq] at hentry
    exact hentry.2 (congrArg DataFile.path hsame)
  · rw [if_neg hsame]
    refine Option.ext fun size => ?_
    rw [Dict.get?_eq_some_iff, Dict.get?_eq_some_iff]
    simp only [unlink, mem_filter, decide_eq_true_eq]
    refine ⟨fun h => h.1, fun h => ⟨h, fun heq => hsame (dataFile_eq heq)⟩⟩

end DatasetRoot

theorem unpublish_spec (selected : List ManifestFacts) (root : DatasetRoot) (freed : Nat)
    (h : ∀ manifest ∈ selected, ∀ entry ∈ root.files.entries, entry.1.path ≠ manifest.path) :
    (∀ manifest, manifest ∈ (selected.foldl (fun (state : DatasetRoot × Nat) manifest =>
        (state.1.unlink manifest.path, state.2 + manifest.size)) (root, freed)).1.manifests ↔
      manifest ∈ root.manifests ∧ ∀ other ∈ selected, manifest.digest ≠ other.digest) ∧
    ∀ file, (selected.foldl (fun (state : DatasetRoot × Nat) manifest =>
      (state.1.unlink manifest.path, state.2 + manifest.size)) (root, freed)).1.files.get? file =
        root.files.get? file := by
  induction selected generalizing root freed with
  | nil => simp
  | cons first _ ih =>
    obtain ⟨hmanifests, hfiles⟩ := ih (root.unlink first.path) (freed + first.size)
      fun manifest hmem entry hentry =>
        h manifest (mem_cons_of_mem _ hmem) entry (mem_filter.mp hentry).1
    simp only [foldl_cons]
    constructor
    · intro manifest
      rw [hmanifests, DatasetRoot.unlink_manifest, forall_mem_cons, and_assoc]
    · intro file
      rw [hfiles, root.get?_unlink_manifest file (h first mem_cons_self)]

theorem removeFiles_spec (orphans : List DataFile) (state : DatasetRoot × Nat × Nat)
    (h : ∀ file ∈ orphans, ∀ manifest ∈ state.1.manifests, manifest.path ≠ file.path) :
    (orphans.foldl (fun (state : DatasetRoot × Nat × Nat) file =>
      match state.1.sizeAt file with
      | none => state
      | some size => (state.1.unlink file.path, state.2.1 + 1, state.2.2 + size)) state).1.manifests =
        state.1.manifests ∧
    ∀ file, (orphans.foldl (fun (state : DatasetRoot × Nat × Nat) file =>
      match state.1.sizeAt file with
      | none => state
      | some size => (state.1.unlink file.path, state.2.1 + 1, state.2.2 + size)) state).1.files.get?
        file = if file ∈ orphans then none else state.1.files.get? file := by
  induction orphans generalizing state with
  | nil => simp
  | cons first _ ih =>
    have hlater := fun file hfile => h file (mem_cons_of_mem first hfile)
    simp only [foldl_cons, state.1.sizeAt_eq (h first mem_cons_self)]
    cases hfirst : state.1.files.get? first with
    | none =>
      obtain ⟨hmanifests, hfiles⟩ := ih state hlater
      refine ⟨hmanifests, ?_⟩
      intro file
      rw [hfiles]
      by_cases hsame : file = first
      · simp [hsame, hfirst]
      · simp [hsame]
    | some size =>
      have hkept := state.1.manifests_unlink_file (h first mem_cons_self)
      obtain ⟨hmanifests, hfiles⟩ := ih (state.1.unlink first.path, state.2.1 + 1, state.2.2 + size)
        (by simpa only [hkept] using hlater)
      refine ⟨hmanifests.trans hkept, ?_⟩
      intro file
      rw [hfiles, DatasetRoot.get?_unlink_file]
      by_cases hsame : file = first
      · simp [hsame]
      · simp [hsame]

theorem deleteSelected_spec (root : DatasetRoot) (manifests selected : List ManifestFacts)
    (hlisted : ∀ manifest ∈ selected, manifest ∈ root.manifests)
    (horphans : ∀ file ∈ orphanedFiles manifests selected, ∀ manifest ∈ root.manifests,
      manifest.path ≠ file.path) :
    (∀ manifest, manifest ∈ (deleteSelected root manifests selected).1.manifests ↔
      manifest ∈ root.manifests ∧ ∀ other ∈ selected, manifest.digest ≠ other.digest) ∧
    ∀ file, (deleteSelected root manifests selected).1.files.get? file =
      if file ∈ orphanedFiles manifests selected then none else root.files.get? file := by
  obtain ⟨hmanifests, hfiles⟩ := unpublish_spec selected root 0
    fun manifest hmem entry hentry => root.apart entry hentry manifest (hlisted manifest hmem)
  obtain ⟨hkept, hremoved⟩ := removeFiles_spec (orphanedFiles manifests selected)
    ((selected.foldl (fun (state : DatasetRoot × Nat) manifest =>
      (state.1.unlink manifest.path, state.2 + manifest.size)) (root, 0)).1, 0,
      (selected.foldl (fun (state : DatasetRoot × Nat) manifest =>
        (state.1.unlink manifest.path, state.2 + manifest.size)) (root, 0)).2)
    fun file hfile manifest hmem => horphans file hfile manifest ((hmanifests manifest).mp hmem).1
  constructor
  · intro manifest
    rw [← hmanifests]
    exact iff_of_eq (congrArg (manifest ∈ ·) hkept)
  · intro file
    rw [← hfiles]
    exact hremoved file

theorem mem_orphanedFiles {selected : List ManifestFacts} {file : DataFile} :
    file ∈ orphanedFiles manifests selected ↔
      (∃ manifest ∈ selected, file ∈ manifest.files) ∧
      ∀ manifest ∈ manifests, (∀ other ∈ selected, manifest.digest ≠ other.digest) →
        file ∉ manifest.files := by
  simp only [orphanedFiles, mem_insertionSort, mem_dedup, mem_filter,
    mem_flatMap, decide_eq_true_eq, mem_map, not_exists, not_and]
  refine and_congr_right fun _ => forall_congr' fun manifest => ?_
  constructor
  · intro h hlisted hout
    exact h ⟨hlisted, fun other hother heq => hout other hother (fingerprint_inj.mp heq).symm⟩
  · intro h hkept
    exact h hkept.1 (fun other hother heq => hkept.2 other hother (fingerprint_inj.mpr heq.symm))

/-! ## Passes -/

/-- The manifest contains an instant of a target's history. -/
def Covered (root : DatasetRoot) (target : DatasetTarget) (instant : Time) : Prop :=
  ∃ manifest ∈ root.manifests, manifest.target = target ∧
    manifest.startsAt ≤ instant ∧ instant < manifest.endsAt

/-- A manifest with the latest end of its target, among those the earliest start, and among
those the latest publication. -/
def Widest (root : DatasetRoot) (manifest : ManifestFacts) : Prop :=
  manifest ∈ root.manifests ∧ ∀ other ∈ root.manifests, other.target = manifest.target →
    other.endsAt < manifest.endsAt ∨ other.endsAt = manifest.endsAt ∧
      (manifest.startsAt < other.startsAt ∨ manifest.startsAt = other.startsAt ∧
        other.publishedAt ≤ manifest.publishedAt)

/-- The verifier accepted a manifest during a pass. -/
def AcceptedBy (stamp : Time → Decimal) (pass : RetentionPass) (root : DatasetRoot)
    (manifest : ManifestFacts) : Prop :=
  ∃ referenced ∈ pass.references, Accepted pass.verify
    (eligibleManifests stamp (pass.rules referenced) (scanManifests root)).1 manifest

/-- No file that a manifest lists is itself a published manifest. -/
def ListsData (root : DatasetRoot) : Prop :=
  ∀ manifest ∈ root.manifests, ∀ file ∈ manifest.files, ∀ other ∈ root.manifests,
    other.path ≠ file.path

instance (root : DatasetRoot) : Decidable (ListsData root) :=
  inferInstanceAs (Decidable (∀ manifest ∈ root.manifests, _))

structure PassKeeps (stamp : Time → Decimal) (pass : RetentionPass) (root root' : DatasetRoot) :
    Prop where
  published : ∀ manifest ∈ root'.manifests, manifest ∈ root.manifests
  referenced : ∀ manifest ∈ root.manifests, ∀ references ∈ pass.references,
    manifest.fingerprint ∈ references → manifest ∈ root'.manifests
  anchored : ∀ manifest ∈ root.manifests, manifest ∉ root'.manifests →
    ∃ anchor ∈ root'.manifests, anchor.target = manifest.target ∧
      anchor.startsAt ≤ manifest.startsAt ∧ manifest.endsAt ≤ anchor.endsAt ∧
      AcceptedBy stamp pass root anchor
  coverage : ∀ target instant, Covered root target instant ↔ Covered root' target instant
  widest : ∀ manifest, Widest root manifest → manifest ∈ root'.manifests
  newest : ∀ manifest ∈ root.manifests, ∃ kept ∈ root'.manifests,
    Widest root kept ∧ kept.target = manifest.target
  files : ∀ file size, root.files.get? file = some size → root'.files.get? file =
    if (∃ manifest ∈ root.manifests, manifest ∉ root'.manifests ∧ file ∈ manifest.files) ∧
      ∀ manifest ∈ root'.manifests, file ∉ manifest.files then none else some size

theorem covers_iff {outer inner : ManifestFacts} : covers outer inner = true ↔
    outer.fingerprint ≠ inner.fingerprint ∧ outer.startsAt ≤ inner.startsAt ∧
      inner.endsAt ≤ outer.endsAt ∧
      (outer.startsAt = inner.startsAt → outer.endsAt = inner.endsAt →
        inner.publishedAt < outer.publishedAt) := by
  simp only [covers, not_or, not_lt, decide_eq_true_eq, decide_eq_true_eq, not_and_or]
  refine and_congr_right fun _ => ?_
  rw [and_assoc]
  refine and_congr_right fun _ => and_congr_right fun _ => ?_
  tauto

theorem exists_widest (root : DatasetRoot) (h : manifest ∈ root.manifests) :
    ∃ widest, Widest root widest ∧ widest.target = manifest.target := by
  let key (item : ManifestFacts) : Time ×ₗ Time ×ₗ Time :=
    toLex (item.endsAt, toLex (-item.startsAt, item.publishedAt))
  have hlisted : manifest ∈ root.manifests.filter (fun other => other.target = manifest.target) :=
    mem_filter.mpr ⟨h, by simp⟩
  obtain ⟨widest, hwidest⟩ := Option.ne_none_iff_exists'.mp
    (fun hnone => ne_nil_of_mem hlisted (argmax_eq_none.mp hnone) :
      List.argmax key (root.manifests.filter (fun other => other.target = manifest.target)) ≠ none)
  have hmem := argmax_mem hwidest
  simp only [mem_filter, decide_eq_true_eq] at hmem
  refine ⟨widest, ⟨hmem.1, ?_⟩, hmem.2⟩
  intro other hother htarget
  have hle := le_of_mem_argmax (mem_filter.mpr
    ⟨hother, decide_eq_true (htarget.trans hmem.2)⟩) hwidest
  simp only [key, Prod.Lex.le_iff, ofLex_toLex, neg_lt_neg_iff, neg_inj] at hle
  rcases hle with hlt | ⟨hend, hlt | ⟨hstart, hpublished⟩⟩
  · exact .inl hlt
  · exact .inr ⟨hend, .inl hlt⟩
  · exact .inr ⟨hend, .inr ⟨hstart.symm, hpublished⟩⟩

variable {root : DatasetRoot}

theorem Widest.not_covered (h : Widest root manifest) (hother : other ∈ root.manifests)
    (htarget : other.target = manifest.target) : covers other manifest ≠ true := by
  intro hcovers
  obtain ⟨-, hstart, hend, hlater⟩ := covers_iff.mp hcovers
  rcases h.2 other hother htarget with hlt | ⟨heq, hlt | ⟨hsame, hpublished⟩⟩
  · exact absurd hend (not_le.mpr hlt)
  · exact absurd hstart (not_le.mpr hlt)
  · exact absurd (hlater hsame.symm heq) (not_lt.mpr hpublished)

theorem PassKeeps.refl (stamp : Time → Decimal) (pass : RetentionPass) (root : DatasetRoot) :
    PassKeeps stamp pass root root where
  published := fun _ h => h
  referenced := fun _ h _ _ _ => h
  anchored := fun _ h hout => absurd h hout
  coverage := fun _ _ => Iff.rfl
  widest := fun _ h => h.1
  newest := by
    intro manifest hmanifest
    obtain ⟨widest, hwidest, htarget⟩ := exists_widest root hmanifest
    exact ⟨widest, hwidest.1, hwidest, htarget⟩
  files := by
    intro file size hfile
    rw [hfile, if_neg]
    rintro ⟨⟨manifest, hmanifest, hout, -⟩, -⟩
    exact hout hmanifest

theorem nodup_scanManifests (root : DatasetRoot) : (scanManifests root).Nodup :=
  (perm_insertionSort _ _).nodup_iff.mpr (List.Nodup.of_map _ root.distinct)

theorem mem_scanManifests :
    manifest ∈ scanManifests root ↔ manifest ∈ root.manifests := mem_insertionSort _

theorem mem_selectedManifests {eligible : List ManifestFacts}
    (h : manifest ∈ selectedManifests pass eligible) :
    manifest ∈ eligible := (mem_insertionSort _).mp (mem_of_mem_take h)

theorem deleteSelected_keeps (stamp : Time → Decimal) {referenced : List String}
    (hlists : ListsData root) (hreferences : pass.references = some referenced) :
    PassKeeps stamp pass root (deleteSelected root (scanManifests root) (selectedManifests pass
      (eligibleManifests stamp (pass.rules referenced) (scanManifests root)).2)).1 := by
  have hinv := eligibleManifests_inv stamp (pass.rules referenced) (nodup_scanManifests root)
  have haccepted : ∀ anchor, Accepted (pass.rules referenced).verify
      (eligibleManifests stamp (pass.rules referenced) (scanManifests root)).1 anchor →
      AcceptedBy stamp pass root anchor := fun anchor h => ⟨referenced, hreferences, h⟩
  generalize eligibleManifests stamp _ _ = found at *
  have hselected : ∀ manifest ∈ selectedManifests pass found.2, manifest ∈ found.2 :=
    fun _ h => mem_selectedManifests h
  generalize selectedManifests pass found.2 = selected at *
  have hscanned : ∀ manifest ∈ selected, manifest ∈ root.manifests :=
    fun manifest h => mem_scanManifests.mp (hinv.within manifest (hselected manifest h)).1
  have horphan := @mem_orphanedFiles (scanManifests root) selected
  obtain ⟨hmanifests, hfiles⟩ := deleteSelected_spec root (scanManifests root) selected
    hscanned (by
      intro file hfile other hother
      obtain ⟨⟨manifest, hmem, hlisted⟩, -⟩ := horphan.mp hfile
      exact hlists manifest (hscanned manifest hmem) file hlisted other hother)
  generalize (deleteSelected root (scanManifests root) selected).1 = root' at *
  -- a manifest is gone exactly when it was selected
  have hgone : ∀ manifest ∈ root.manifests, (manifest ∉ root'.manifests ↔ manifest ∈ selected) := by
    intro manifest hmanifest
    rw [hmanifests, not_and, not_forall]
    constructor
    · intro h
      obtain ⟨other, hother⟩ := h hmanifest
      obtain ⟨hmem, heq⟩ := Classical.not_imp.mp hother
      have hlisted := mem_scanManifests.mp (hinv.within other (hselected other hmem)).1
      exact inj_on_of_nodup_map root.distinct hmanifest hlisted (not_not.mp heq) ▸ hmem
    · intro hmem _
      exact ⟨manifest, fun h => h hmem rfl⟩
  have hanchor : ∀ manifest ∈ root.manifests, manifest ∉ root'.manifests →
      ∃ anchor ∈ root'.manifests, anchor.target = manifest.target ∧ covers anchor manifest = true ∧
        AcceptedBy stamp pass root anchor := by
    intro manifest hmanifest hout
    have hmem := (hgone manifest hmanifest).mp hout
    obtain ⟨anchor, hlisted, hkept, htarget, hcovers, hyes⟩ :=
      hinv.anchored manifest (hselected manifest hmem)
    have hin := mem_scanManifests.mp hlisted
    refine ⟨anchor, ?_, htarget, hcovers, haccepted anchor hyes⟩
    by_contra hgoneAnchor
    exact hkept (hselected anchor ((hgone anchor hin).mp hgoneAnchor))
  have hpublished : ∀ manifest ∈ root'.manifests, manifest ∈ root.manifests :=
    fun manifest h => ((hmanifests manifest).mp h).1
  have hwidest : ∀ manifest, Widest root manifest → manifest ∈ root'.manifests := by
    intro manifest hmanifest
    by_contra hout
    obtain ⟨anchor, hin, htarget, hcovers, -⟩ := hanchor manifest hmanifest.1 hout
    exact hmanifest.not_covered (hpublished anchor hin) htarget hcovers
  refine ⟨hpublished, ?_, ?_, ?_, hwidest, ?_, ?_⟩
  · intro manifest hmanifest references hscanned hreferenced
    obtain rfl : referenced = references := Option.some.inj (hreferences.symm.trans hscanned)
    by_contra hout
    exact hinv.unreferenced manifest
      (hselected manifest ((hgone manifest hmanifest).mp hout)) hreferenced
  · intro manifest hmanifest hout
    obtain ⟨anchor, hin, htarget, hcovers, hyes⟩ := hanchor manifest hmanifest hout
    obtain ⟨-, hstart, hend, -⟩ := covers_iff.mp hcovers
    exact ⟨anchor, hin, htarget, hstart, hend, hyes⟩
  · intro target instant
    constructor
    · rintro ⟨manifest, hmanifest, htarget, hstart, hend⟩
      by_cases hkept : manifest ∈ root'.manifests
      · exact ⟨manifest, hkept, htarget, hstart, hend⟩
      · obtain ⟨anchor, hin, hsame, hcovers, -⟩ := hanchor manifest hmanifest hkept
        obtain ⟨-, hfirst, hlast, -⟩ := covers_iff.mp hcovers
        exact ⟨anchor, hin, hsame.trans htarget, hfirst.trans hstart, hend.trans_le hlast⟩
    · rintro ⟨manifest, hmanifest, hrest⟩
      exact ⟨manifest, hpublished manifest hmanifest, hrest⟩
  · intro manifest hmanifest
    obtain ⟨widest, hmax, htarget⟩ := exists_widest root hmanifest
    exact ⟨widest, hwidest widest hmax, hmax, htarget⟩
  · intro file size hfile
    rw [hfiles, hfile]
    refine if_congr ?_ rfl rfl
    rw [horphan]
    refine and_congr ⟨?_, ?_⟩ ⟨?_, ?_⟩
    · rintro ⟨manifest, hmem, hlisted⟩
      have hin := mem_scanManifests.mp (hinv.within manifest (hselected manifest hmem)).1
      exact ⟨manifest, hin, (hgone manifest hin).mpr hmem, hlisted⟩
    · rintro ⟨manifest, hin, hout, hlisted⟩
      exact ⟨manifest, (hgone manifest hin).mp hout, hlisted⟩
    · intro h manifest hkept
      have hboth := (hmanifests manifest).mp hkept
      exact h manifest (mem_scanManifests.mpr hboth.1) hboth.2
    · intro h manifest hscanned hout
      exact h manifest ((hmanifests manifest).mpr ⟨mem_scanManifests.mp hscanned, hout⟩)

variable {root' : DatasetRoot}

theorem collectSupersededDatasets_keeps (stamp : Time → Decimal) {report : RetentionReport}
    (hlists : ListsData root)
    (h : collectSupersededDatasets stamp pass root = .ok (root', report)) :
    PassKeeps stamp pass root root' := by
  obtain ⟨-, h⟩ := of_ite_ne h nofun
  split at h
  · cases h
    exact .refl stamp pass root
  · split at h
    · cases h
      exact .refl stamp pass root
    · split at h
      · cases h
        exact .refl stamp pass root
      next referenced hreferences =>
        have hroot := congrArg Prod.fst (Except.ok.inj h)
        rw [collect] at hroot
        by_cases hdry : pass.dryRun
        · simp only [hdry, if_true] at hroot
          exact hroot ▸ .refl stamp pass root
        · simp only [hdry] at hroot
          exact hroot ▸ deleteSelected_keeps stamp hlists hreferences

/-! ## Runs -/

/-- What happens to a root: a pass, or a publication between passes. -/
inductive RetentionEvent where
  | pass (pass : RetentionPass)
  | publish (manifest : ManifestFacts)

/-- One event. A pass meets manifests that list data files. A publication adds a manifest of a new
digest and may write files; it removes and rewrites none. -/
inductive RetentionStep (stamp : Time → Decimal) : DatasetRoot → RetentionEvent → DatasetRoot → Prop
  | pass {pass : RetentionPass} {root root' : DatasetRoot} {report : RetentionReport}
      (hlists : ListsData root) (h : collectSupersededDatasets stamp pass root = .ok (root', report)) :
      RetentionStep stamp root (.pass pass) root'
  | publish {manifest : ManifestFacts} {root root' : DatasetRoot}
      (hmanifests : root'.manifests = root.manifests ++ [manifest])
      (hfiles : ∀ file size, root.files.get? file = some size → root'.files.get? file = some size) :
      RetentionStep stamp root (.publish manifest) root'

theorem RetentionStep.covered {event : RetentionEvent} (h : RetentionStep stamp root event root')
    {instant : Time} (hcovered : Covered root target instant) : Covered root' target instant := by
  cases h with
  | pass hlists h =>
    exact ((collectSupersededDatasets_keeps stamp hlists h).coverage target instant).mp hcovered
  | publish hmanifests =>
    obtain ⟨manifest, hmanifest, hrest⟩ := hcovered
    exact ⟨manifest, hmanifests ▸ mem_append_left _ hmanifest, hrest⟩

def firstDay : DataFile := ⟨"coinbase/BTC-USD/1h/part-a.parquet"⟩

def firstDraft : DataFile := ⟨"coinbase/BTC-USD/1h/part-b.parquet"⟩

def narrowRevision : ManifestFacts where
  digest := "1"
  target := ⟨"coinbase", "BTC-USD", "1h"⟩
  startsAt := 0
  endsAt := 24
  files := [firstDay, firstDraft]
  publishedAt := 24
  size := 1
  nonempty := by decide

def wideRevision : ManifestFacts where
  digest := "2"
  target := ⟨"coinbase", "BTC-USD", "1h"⟩
  startsAt := 0
  endsAt := 48
  files := [firstDay]
  publishedAt := 48
  size := 1
  nonempty := by decide

def revisedRoot : DatasetRoot where
  manifests := [narrowRevision, wideRevision]
  unreadable := 0
  files := ⟨[(firstDay, 100), (firstDraft, 100)], by decide⟩
  distinct := by decide
  apart := by decide

def latePass : RetentionPass where
  acquired := true
  references := some []
  verify := fun _ _ => some true
  now := 100
  grace := 10
  maxManifests := 5
  dryRun := false

/-- A narrow revision that lists the manifest of another series among its files. -/
def strayRevision : ManifestFacts :=
  { narrowRevision with files := [firstDraft, ⟨"manifests/3.json"⟩] }

/-- The only manifest of that series. -/
def otherSeries : ManifestFacts :=
  { wideRevision with digest := "3", target := ⟨"coinbase", "ETH-USD", "1h"⟩ }

def strayRoot : DatasetRoot where
  manifests := [strayRevision, wideRevision, otherSeries]
  unreadable := 0
  files := ⟨[(firstDay, 100), (firstDraft, 100)], by decide⟩
  distinct := by decide
  apart := by decide

end Thytrader.MarketData
