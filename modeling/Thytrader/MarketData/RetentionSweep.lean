import Thytrader.MarketData.RetentionSafety

/-!
# The retention sweep against its plain rule

`_eligible_in_group` walks the manifests of one target in order of their starts and keeps three
predecessors: the widest, the widest published before the cutoff, and the widest that nothing
covers. The plain rule asks of each manifest whether any other one covers it
(`eligibleInGroup_plain`).

One fact carries the proof. In the order of the sweep, a predecessor covers a manifest exactly when
it ends no earlier (`ManifestGroup.covers_iff_ends`): equal starts and equal ends leave the later
publication first, and no two manifests share all three.

The sort keys go through `datetime.timestamp()`, a double. `Resolves` says that it tells the
instants of one group apart: it does for 272 years around the epoch (`resolves_of_recent`), where a
double still holds every microsecond. Two ends of the year 2300 that are one microsecond apart can
share a key, and the sweep then keeps a superseded manifest (`farFuture_kept`).
-/

namespace Thytrader.MarketData

open Lib List Prod.Lex

variable {outer : ManifestFacts} {seen : List ManifestFacts}

/-! ## The plain rule -/

def Superseded (rules : RetentionRules) (group : List ManifestFacts) (manifest : ManifestFacts) :
    Prop :=
  manifest.fingerprint ∉ rules.referenced ∧
    ∃ outer ∈ group, outer.publishedAt ≤ rules.cutoff ∧ covers outer manifest = true

instance (rules : RetentionRules) (group : List ManifestFacts) (manifest : ManifestFacts) :
    Decidable (Superseded rules group manifest) :=
  inferInstanceAs (Decidable (_ ∧ _))

/-- The rounded timestamps tell the ends, the starts and the publications of a group apart. -/
structure Resolves (stamp : Time → Decimal) (group : List ManifestFacts) : Prop where
  ends : ∀ first ∈ group, ∀ second ∈ group,
    first.endsAt < second.endsAt → stamp first.endsAt < stamp second.endsAt
  starts : ∀ first ∈ group, ∀ second ∈ group,
    first.startsAt < second.startsAt → stamp first.startsAt < stamp second.startsAt
  published : ∀ first ∈ group, ∀ second ∈ group,
    first.publishedAt < second.publishedAt → stamp first.publishedAt < stamp second.publishedAt

/-- Instants within 2^33 seconds of the epoch. -/
def Recent (instant : Time) : Prop := |instant| < 2 ^ 33 * 1000000

theorem timestamp_lt {first second : Time} (hfirst : Recent first) (hsecond : Recent second)
    (h : first < second) : timestamp first < timestamp second := by
  have hplace (instant : Time) (hrecent : Recent instant) :
      lastPlace 2 53 ((instant : ℚ) / 1000000) ≤ 2 ^ (-20 : ℤ) := by
    have hsize : |(instant : ℚ) / 1000000| < ((2 : ℕ) : ℚ) ^ 33 := by
      rw [abs_div, div_lt_iff₀ (by norm_num)]
      exact_mod_cast hrecent
    exact place_le_of_lt one_lt_two hsize (by decide)
  have hone : (1 : ℤ) ≤ second - first := Int.sub_pos_of_lt h
  have hapart : (1 : ℚ) ≤ second - first := by exact_mod_cast hone
  have hleft := hplace first hfirst
  have hright := hplace second hsecond
  refine roundTo_lt one_lt_two ?_
  rw [← sub_div]
  linarith [div_le_div_of_nonneg_right hapart (by norm_num : (0 : ℚ) ≤ 1000000)]

theorem resolves_of_recent {group : List ManifestFacts} (h : ∀ manifest ∈ group,
    Recent manifest.startsAt ∧ Recent manifest.endsAt ∧ Recent manifest.publishedAt) :
    Resolves timestamp group where
  ends := fun first hfirst second hsecond =>
    timestamp_lt (h first hfirst).2.1 (h second hsecond).2.1
  starts := fun first hfirst second hsecond =>
    timestamp_lt (h first hfirst).1 (h second hsecond).1
  published := fun first hfirst second hsecond =>
    timestamp_lt (h first hfirst).2.2 (h second hsecond).2.2

/-- A group as the scan hands it over: distinct fingerprints, and no two manifests of the same
range and publication. -/
structure ManifestGroup (stamp : Time → Decimal) (group : List ManifestFacts) : Prop where
  distinct : (group.map (·.fingerprint)).Nodup
  apart : ∀ first ∈ group, ∀ second ∈ group, first.startsAt = second.startsAt →
    first.endsAt = second.endsAt → first.publishedAt = second.publishedAt → first = second
  resolves : Resolves stamp group

/-! ## The order of the sweep -/

section

variable {stamp : Time → Decimal} {group processed rest : List ManifestFacts}
  {manifest : ManifestFacts}

def sweepOrder (stamp : Time → Decimal) (group : List ManifestFacts) : List ManifestFacts :=
  group.insertionSort (fun first second => sweepKey stamp first ≤ sweepKey stamp second)

section

variable (stamp : Time → Decimal) (group : List ManifestFacts)

theorem sweepOrder_perm : (sweepOrder stamp group).Perm group := perm_insertionSort _ _

theorem sweepOrder_sorted :
    (sweepOrder stamp group).Pairwise
      (fun first second => sweepKey stamp first ≤ sweepKey stamp second) := by
  have : Std.Total (fun first second : ManifestFacts =>
      sweepKey stamp first ≤ sweepKey stamp second) :=
    ⟨fun first second => le_total (sweepKey stamp first) (sweepKey stamp second)⟩
  have : IsTrans ManifestFacts (fun first second =>
      sweepKey stamp first ≤ sweepKey stamp second) := ⟨fun _ _ _ => le_trans⟩
  exact pairwise_insertionSort _ _

end

theorem mem_sweepOrder : manifest ∈ sweepOrder stamp group ↔ manifest ∈ group :=
  (sweepOrder_perm stamp group).mem_iff

variable (h : ManifestGroup stamp group)
include h

theorem ManifestGroup.eq_of_fingerprint {first second : ManifestFacts} (hfirst : first ∈ group)
    (hsecond : second ∈ group) (hsame : first.fingerprint = second.fingerprint) : first = second :=
  inj_on_of_nodup_map h.distinct hfirst hsecond hsame

/-- A manifest that covers another comes strictly before it. -/
theorem ManifestGroup.key_lt {inner : ManifestFacts} (houter : outer ∈ group)
    (hinner : inner ∈ group) (hcovers : covers outer inner = true) :
    sweepKey stamp outer < sweepKey stamp inner := by
  obtain ⟨-, hstarts, hends, hrange⟩ := covers_iff.mp hcovers
  unfold sweepKey
  rw [toLex_lt_toLex]
  obtain hlt | hstart := hstarts.lt_or_eq
  · exact .inl hlt
  · refine .inr ⟨hstart, toLex_lt_toLex.mpr ?_⟩
    obtain hlt | hend := hends.lt_or_eq
    · exact .inl (neg_lt_neg (h.resolves.ends inner hinner outer houter hlt))
    · refine .inr ⟨congrArg (fun ends => -stamp ends) hend.symm, neg_lt_neg ?_⟩
      exact h.resolves.published inner hinner outer houter (hrange hstart hend.symm)

section

variable (horder : sweepOrder stamp group = processed ++ manifest :: rest)
include horder

omit h in
theorem mem_group {item : ManifestFacts} (hitem : item ∈ processed ++ manifest :: rest) :
    item ∈ group := by
  rw [← horder] at hitem
  exact mem_sweepOrder.mp hitem

theorem ManifestGroup.covers_iff_ends (houter : outer ∈ processed) :
    covers outer manifest = true ↔ manifest.endsAt ≤ outer.endsAt := by
  have hsorted := sweepOrder_sorted stamp group
  have hnodup := ((sweepOrder_perm stamp group).map (·.fingerprint)).nodup_iff.mpr h.distinct
  rw [horder] at hsorted hnodup
  have hkey := (pairwise_append.mp hsorted).2.2 outer houter manifest mem_cons_self
  have hname : outer.fingerprint ≠ manifest.fingerprint := by
    rw [map_append, map_cons] at hnodup
    exact (nodup_append.mp hnodup).2.2 _ (mem_map_of_mem houter) _ mem_cons_self
  have hin := mem_group horder (mem_append_left _ houter)
  have hout := mem_group horder (mem_append_right _ mem_cons_self)
  rw [covers_iff]
  unfold sweepKey at hkey
  rw [toLex_le_toLex] at hkey
  constructor
  · exact fun hcovers => hcovers.2.2.1
  · intro hends
    refine ⟨hname, ?_, hends, ?_⟩
    · obtain hlt | ⟨heq, -⟩ := hkey
      · exact hlt.le
      · exact heq.le
    · intro hstart hend
      obtain hlt | ⟨-, hkey⟩ := hkey
      · exact absurd hstart hlt.ne
      · rw [toLex_le_toLex, hend] at hkey
        obtain hlt | ⟨-, hpublished⟩ := hkey
        · exact absurd hlt (lt_irrefl _)
        · have hpublished : stamp manifest.publishedAt ≤ stamp outer.publishedAt :=
            neg_le_neg_iff.mp hpublished
          by_contra hearlier
          obtain hlt | heq := (not_lt.mp hearlier).lt_or_eq
          · exact absurd hpublished (h.resolves.published outer hin manifest hout hlt).not_ge
          · exact hname (congrArg (·.fingerprint) (h.apart outer hin manifest hout hstart hend heq))

theorem ManifestGroup.covered_before (houter : outer ∈ group)
    (hcovers : covers outer manifest = true) : outer ∈ processed := by
  have hsorted := sweepOrder_sorted stamp group
  have hmanifest : manifest ∈ group := by
    rw [← @mem_sweepOrder stamp, horder]
    exact mem_append_right _ mem_cons_self
  have hlt := h.key_lt houter hmanifest hcovers
  rw [← @mem_sweepOrder stamp, horder] at houter
  rw [horder] at hsorted
  obtain hbefore | hafter := mem_append.mp houter
  · exact hbefore
  · obtain rfl | hrest := mem_cons.mp hafter
    · exact absurd hlt (lt_irrefl _)
    · have hle := (pairwise_cons.mp (pairwise_append.mp hsorted).2.1).1 outer hrest
      exact absurd hlt hle.not_gt

end

end

/-! ## The newest manifest -/

section

variable {stamp : Time → Decimal} {group : List ManifestFacts}

/-- The fold of `max(group, key=…)` keeps a manifest with the largest key so far. -/
theorem newest_fold (stamp : Time → Decimal) (group : List ManifestFacts) (held : ManifestFacts) :
    ∃ newest, group.foldl (fun best manifest =>
        match best with
        | none => some manifest
        | some held => if newestKey stamp held < newestKey stamp manifest then some manifest
          else best) (some held) = some newest ∧
      newest ∈ held :: group ∧
      ∀ manifest ∈ held :: group, newestKey stamp manifest ≤ newestKey stamp newest := by
  induction group generalizing held with
  | nil => exact ⟨held, rfl, mem_cons_self, by simp⟩
  | cons first _ ih =>
    rw [foldl_cons]
    dsimp only
    by_cases hlater : newestKey stamp held < newestKey stamp first
    · rw [if_pos hlater]
      obtain ⟨newest, hrun, hmem, hlargest⟩ := ih first
      refine ⟨newest, hrun, mem_cons_of_mem _ hmem, forall_mem_cons.mpr ⟨?_, hlargest⟩⟩
      exact hlater.le.trans (hlargest first mem_cons_self)
    · rw [if_neg hlater]
      obtain ⟨newest, hrun, hmem, hlargest⟩ := ih held
      obtain ⟨hheld, hrest⟩ := forall_mem_cons.mp hlargest
      have hfirst := (not_lt.mp hlater).trans hheld
      refine ⟨newest, hrun, ?_, by simpa using ⟨hheld, hfirst, hrest⟩⟩
      exact mem_cons.mpr ((mem_cons.mp hmem).imp_right (mem_cons_of_mem _))

variable {newest : ManifestFacts}

theorem newestOf_spec (hnewest : newestOf stamp group = some newest) :
    newest ∈ group ∧ ∀ manifest ∈ group, newestKey stamp manifest ≤ newestKey stamp newest := by
  cases group with
  | nil => exact absurd hnewest (by simp [newestOf])
  | cons first rest =>
    obtain ⟨found, hrun, hlargest⟩ := newest_fold stamp rest first
    have hfound : newestOf stamp (first :: rest) = some found := hrun
    cases hnewest.symm.trans hfound
    exact hlargest

theorem ManifestGroup.newest_not_covered (h : ManifestGroup stamp group)
    (hnewest : newestOf stamp group = some newest) (houter : outer ∈ group) :
    covers outer newest = false := by
  obtain ⟨hmem, hlargest⟩ := newestOf_spec hnewest
  have hkey := hlargest outer houter
  rw [Bool.eq_false_iff]
  intro hcovers
  obtain ⟨-, hstarts, hends, hrange⟩ := covers_iff.mp hcovers
  unfold newestKey at hkey
  rw [toLex_le_toLex] at hkey
  obtain hlt | ⟨hend, hkey⟩ := hkey
  · exact absurd hends hlt.not_ge
  · rw [toLex_le_toLex] at hkey
    obtain hlt | hstart := hstarts.lt_or_eq
    · have hstamp := h.resolves.starts outer houter newest hmem hlt
      obtain hless | ⟨hsame, -⟩ := hkey
      · exact absurd hstamp (neg_lt_neg_iff.mp hless).not_gt
      · exact absurd hstamp (neg_inj.mp hsame).not_lt
    · obtain hless | ⟨-, hpublished⟩ := hkey
      · rw [hstart] at hless
        exact absurd hless (lt_irrefl _)
      · exact absurd (hrange hstart hend) hpublished.not_gt

end

/-! ## The sweep -/

def EndsLast (seen : List ManifestFacts) : Option ManifestFacts → Prop
  | none => seen = []
  | some best => best ∈ seen ∧ ∀ manifest ∈ seen, manifest.endsAt ≤ best.endsAt

variable {best : Option ManifestFacts}

theorem EndsLast.keep {best manifest : ManifestFacts} (h : EndsLast seen (some best))
    (hends : manifest.endsAt ≤ best.endsAt) : EndsLast (seen ++ [manifest]) (some best) :=
  ⟨mem_append_left _ h.1, forall_mem_append.mpr ⟨h.2, forall_mem_singleton.mpr hends⟩⟩

/-- `_wider` keeps the latest end. -/
theorem EndsLast.push (h : EndsLast seen best) (manifest : ManifestFacts) :
    EndsLast (seen ++ [manifest]) (some (wider best manifest)) := by
  cases best with
  | none =>
    obtain rfl : seen = [] := h
    exact ⟨mem_singleton_self _, forall_mem_singleton.mpr le_rfl⟩
  | some best =>
    unfold wider
    dsimp only
    by_cases hlater : toLex (best.endsAt, best.publishedAt) <
        toLex (manifest.endsAt, manifest.publishedAt)
    · rw [if_pos hlater]
      have hends : best.endsAt ≤ manifest.endsAt := by
        obtain hlt | ⟨heq, -⟩ := toLex_lt_toLex.mp hlater
        · exact hlt.le
        · exact heq.le
      exact ⟨mem_append_right _ (mem_singleton_self _), forall_mem_append.mpr
        ⟨fun other hother => (h.2 other hother).trans hends, forall_mem_singleton.mpr le_rfl⟩⟩
    · rw [if_neg hlater]
      have hends : manifest.endsAt ≤ best.endsAt := by
        obtain hlt | ⟨heq, -⟩ := toLex_le_toLex.mp (not_lt.mp hlater)
        · exact hlt.le
        · exact heq.le
      exact h.keep hends

/-- The three predecessors the sweep keeps. -/
structure Predecessors (rules : RetentionRules) (seen : List ManifestFacts) (state : Sweep) :
    Prop where
  any : EndsLast seen state.bestAny
  old : EndsLast (seen.filter (fun manifest => manifest.publishedAt ≤ rules.cutoff)) state.bestOld
  maximal : EndsLast seen state.bestMaximal

structure Judged (rules : RetentionRules) (group : List ManifestFacts) (manifest : ManifestFacts)
    (state next : Sweep) : Prop where
  added : next.eligible = state.eligible ∨
    Superseded rules group manifest ∧ next.eligible = state.eligible ++ [manifest]
  accepting : (∀ call path, rules.verify call path = some true) →
    (∀ entry ∈ state.verified.entries, entry.2 = true) →
    (∀ entry ∈ next.verified.entries, entry.2 = true) ∧
      (Superseded rules group manifest → next.eligible = state.eligible ++ [manifest])

section

variable {stamp : Time → Decimal} {rules : RetentionRules}
  {group processed rest : List ManifestFacts} {manifest : ManifestFacts} {state : Sweep}

theorem isVerified_accepts {cache : Dict String Bool}
    (haccepts : ∀ call path, rules.verify call path = some true)
    (hcache : ∀ entry ∈ cache.entries, entry.2 = true) (anchor : ManifestFacts) :
    (isVerified rules.verify cache anchor).2 = true ∧
      ∀ entry ∈ (isVerified rules.verify cache anchor).1.entries, entry.2 = true := by
  unfold isVerified
  cases hcached : cache.get? anchor.fingerprint with
  | some =>
    exact ⟨hcache _ (Dict.get?_eq_some_iff.mp hcached), hcache⟩
  | none =>
    rw [haccepts, Option.getD_some, Dict.entries_set_of_absent hcached]
    exact ⟨rfl, forall_mem_append.mpr ⟨hcache, forall_mem_singleton.mpr rfl⟩⟩

variable (h : ManifestGroup stamp group)
  (horder : sweepOrder stamp group = processed ++ manifest :: rest)
include h horder

theorem EndsLast.covers_iff (hseen : ∀ outer ∈ seen, outer ∈ processed)
    (hbest : EndsLast seen best) :
    best.any (covers · manifest) = true ↔ ∃ outer ∈ seen, covers outer manifest = true := by
  cases best with
  | none =>
    obtain rfl : seen = [] := hbest
    simp
  | some best =>
    obtain ⟨hmem, hlast⟩ := hbest
    constructor
    · exact fun hcovers => ⟨best, hmem, hcovers⟩
    · intro hcovered
      obtain ⟨outer, houter, hcovers⟩ := hcovered
      have hends := (h.covers_iff_ends horder (hseen outer houter)).mp hcovers
      exact (h.covers_iff_ends horder (hseen best hmem)).mpr (hends.trans (hlast outer houter))

theorem Predecessors.superseded_iff (hstate : Predecessors rules processed state) :
    Superseded rules group manifest ↔ manifest.fingerprint ∉ rules.referenced ∧
      state.bestOld.any (covers · manifest) = true := by
  refine and_congr_right fun _ => ?_
  rw [hstate.old.covers_iff h horder (fun outer houter => (mem_filter.mp houter).1)]
  constructor
  · intro hcovered
    obtain ⟨outer, houter, hold, hcovers⟩ := hcovered
    exact ⟨outer, mem_filter.mpr ⟨h.covered_before horder houter hcovers,
      decide_eq_true hold⟩, hcovers⟩
  · intro hcovered
    obtain ⟨outer, houter, hcovers⟩ := hcovered
    obtain ⟨hmem, hold⟩ := mem_filter.mp houter
    refine ⟨outer, ?_, of_decide_eq_true hold, hcovers⟩
    exact mem_group horder (mem_append_left _ hmem)

theorem Predecessors.anchor_iff (hstate : Predecessors rules processed state) :
    (∃ anchor, sweepAnchor rules (newestOf stamp group) state manifest = some anchor) ↔
      Superseded rules group manifest := by
  rw [hstate.superseded_iff h horder]
  have hall := fun outer (houter : outer ∈ processed) => houter
  constructor
  · intro hanchor
    obtain ⟨anchor, hanchor⟩ := hanchor
    obtain ⟨hguard, hanchor⟩ := of_ite_ne_else hanchor nofun
    exact hguard.2
  · intro hsuperseded
    obtain ⟨outer, houter, hcovers⟩ := (hstate.old.covers_iff h horder
      (fun outer houter => (mem_filter.mp houter).1)).mp hsuperseded.2
    have hseen := (mem_filter.mp houter).1
    have hnewest : some manifest.fingerprint ≠
        (newestOf stamp group).map (·.fingerprint) := by
      intro hsame
      obtain ⟨newest, hnewest, hname⟩ := Option.map_eq_some_iff.mp hsame.symm
      have heq := h.eq_of_fingerprint (newestOf_spec hnewest).1
        (mem_group horder (mem_append_right _ mem_cons_self)) hname
      rw [heq] at hnewest
      have hfree := h.newest_not_covered hnewest (mem_group horder (mem_append_left _ hseen))
      rw [hcovers] at hfree
      exact Bool.noConfusion hfree
    unfold sweepAnchor
    rw [if_pos ⟨hnewest, hsuperseded⟩]
    have hmaximal := (hstate.maximal.covers_iff h horder hall).mpr ⟨outer, hseen, hcovers⟩
    cases hbest : state.bestMaximal with
    | none =>
      rw [hbest] at hmaximal
      cases hmaximal
    | some best =>
      rw [hbest] at hmaximal
      exact ⟨best, Option.filter_eq_some_iff.mpr ⟨rfl, hmaximal⟩⟩

end

section

variable {stamp : Time → Decimal} {rules : RetentionRules}
  {group processed rest : List ManifestFacts} {manifest : ManifestFacts} {state : Sweep}

section

variable (h : ManifestGroup stamp group)
  (horder : sweepOrder stamp group = processed ++ manifest :: rest)
  (hstate : Predecessors rules processed state)
include h horder hstate

theorem Superseded.covered (hsuperseded : Superseded rules group manifest) :
    state.bestAny.any (covers · manifest) = true := by
  obtain ⟨-, outer, houter, -, hcovers⟩ := hsuperseded
  exact (hstate.any.covers_iff h horder (fun _ hseen => hseen)).mpr
    ⟨outer, h.covered_before horder houter hcovers, hcovers⟩

/-- One manifest of the sweep keeps the predecessors and is judged by the plain rule. -/
theorem sweepStep_spec :
    Predecessors rules (processed ++ [manifest])
        (sweepStep rules (newestOf stamp group) state manifest) ∧
      Judged rules group manifest state
        (sweepStep rules (newestOf stamp group) state manifest) := by
  have hold : EndsLast
      ((processed ++ [manifest]).filter (fun item => item.publishedAt ≤ rules.cutoff))
      (if manifest.publishedAt ≤ rules.cutoff then some (wider state.bestOld manifest)
        else state.bestOld) := by
    rw [filter_append]
    by_cases hearly : manifest.publishedAt ≤ rules.cutoff
    · rw [if_pos hearly, filter_cons_of_pos (by simpa using hearly), filter_nil]
      exact hstate.old.push manifest
    · rw [if_neg hearly, filter_cons_of_neg (by simpa using hearly), filter_nil,
        append_nil]
      exact hstate.old
  by_cases hcovered : state.bestAny.any (covers · manifest) = true
  · -- a covered manifest ends no later than the maximal predecessor, which stays
    have hmaximal : EndsLast (processed ++ [manifest]) state.bestMaximal := by
      obtain ⟨outer, houter, hcovers⟩ :=
        (hstate.any.covers_iff h horder (fun _ hseen => hseen)).mp hcovered
      have hends := (h.covers_iff_ends horder houter).mp hcovers
      have hkept := hstate.maximal
      cases hbest : state.bestMaximal with
      | none =>
        rw [hbest] at hkept
        obtain rfl : processed = [] := hkept
        cases houter
      | some =>
        rw [hbest] at hkept
        exact hkept.keep (hends.trans (hkept.2 outer houter))
    have hanchors := hstate.anchor_iff h horder
    cases hanchor : sweepAnchor rules (newestOf stamp group) state manifest with
    | none =>
      simp only [sweepStep, hcovered, hanchor, if_true]
      refine ⟨⟨hstate.any.push manifest, hold, hmaximal⟩, .inl rfl, ?_⟩
      intro _ hcache
      refine ⟨hcache, fun hsuperseded => ?_⟩
      obtain ⟨anchor, hfound⟩ := hanchors.mpr hsuperseded
      cases (hanchor.symm.trans hfound)
    | some anchor =>
      have hsuperseded := hanchors.mp ⟨anchor, hanchor⟩
      simp only [sweepStep, hcovered, hanchor, if_true]
      refine ⟨⟨hstate.any.push manifest, hold, hmaximal⟩, ?_, ?_⟩
      · dsimp only
        split
        · exact .inr ⟨hsuperseded, rfl⟩
        · exact .inl rfl
      · intro haccepts hcache
        obtain ⟨haccepted, hlater⟩ := isVerified_accepts haccepts hcache anchor
        exact ⟨hlater, fun _ => if_pos haccepted⟩
  · simp only [sweepStep, hcovered]
    refine ⟨⟨hstate.any.push manifest, hold, hstate.maximal.push manifest⟩, .inl rfl, ?_⟩
    intro _ hcache
    exact ⟨hcache, fun hsuperseded => absurd (hsuperseded.covered h horder hstate) hcovered⟩

end

/-- What the rest of a sweep adds. -/
structure Yields (rules : RetentionRules) (group rest : List ManifestFacts) (state last : Sweep)
    (yielded : List ManifestFacts) : Prop where
  eligible : last.eligible = state.eligible ++ yielded
  sublist : yielded.Sublist (rest.filter (fun manifest => Superseded rules group manifest))
  accepting : (∀ call path, rules.verify call path = some true) →
    (∀ entry ∈ state.verified.entries, entry.2 = true) →
    yielded = rest.filter (fun manifest => Superseded rules group manifest)

/-- The sweep yields superseded manifests in its order, and with an accepting verifier all
of them. -/
theorem sweep_yields (h : ManifestGroup stamp group)
    (horder : sweepOrder stamp group = processed ++ rest)
    (hstate : Predecessors rules processed state) :
    ∃ yielded, Yields rules group rest state
      (rest.foldl (sweepStep rules (newestOf stamp group)) state) yielded := by
  induction rest generalizing processed state with
  | nil => exact ⟨[], (append_nil _).symm, List.Sublist.refl _, fun _ _ => rfl⟩
  | cons manifest rest ih =>
    obtain ⟨hnext, hjudged⟩ := sweepStep_spec h horder hstate
    rw [append_cons] at horder
    obtain ⟨yielded, hyields⟩ := ih horder hnext
    by_cases hsuperseded : Superseded rules group manifest
    · have hfilter : (manifest :: rest).filter (fun item => Superseded rules group item) =
          manifest :: rest.filter (fun item => Superseded rules group item) :=
        filter_cons_of_pos (by simpa using hsuperseded)
      obtain hsame | ⟨-, hadded⟩ := hjudged.added
      · refine ⟨yielded, hyields.eligible.trans (by rw [hsame]), ?_, ?_⟩
        · rw [hfilter]
          exact hyields.sublist.cons manifest
        · intro haccepts hcache
          have hadded := (hjudged.accepting haccepts hcache).2 hsuperseded
          exact absurd (hsame.symm.trans hadded) (by simp)
      · refine ⟨manifest :: yielded, hyields.eligible.trans (by rw [hadded, append_assoc]; rfl),
          ?_, ?_⟩
        · rw [hfilter]
          exact hyields.sublist.cons_cons manifest
        · intro haccepts hcache
          rw [hfilter, hyields.accepting haccepts (hjudged.accepting haccepts hcache).1]
    · have hfilter : (manifest :: rest).filter (fun item => Superseded rules group item) =
          rest.filter (fun item => Superseded rules group item) :=
        filter_cons_of_neg (by simpa using hsuperseded)
      obtain hsame | ⟨hcontra, -⟩ := hjudged.added
      · refine ⟨yielded, hyields.eligible.trans (by rw [hsame]), ?_, ?_⟩
        · rw [hfilter]
          exact hyields.sublist
        · intro haccepts hcache
          rw [hfilter]
          exact hyields.accepting haccepts (hjudged.accepting haccepts hcache).1
      · exact absurd hcontra hsuperseded

end

/-- `_eligible_in_group` yields, each once, unreferenced manifests that one published by the cutoff
covers; with an accepting verifier all of them. -/
theorem eligibleInGroup_plain {stamp : Time → Decimal} {group : List ManifestFacts}
    (h : ManifestGroup stamp group) (rules : RetentionRules) (cache : Dict String Bool)
    (found : List ManifestFacts) :
    ∃ yielded, (eligibleInGroup stamp rules (cache, found) group).2 = found ++ yielded ∧
      yielded.Nodup ∧
      (∀ manifest ∈ yielded, manifest ∈ group ∧ Superseded rules group manifest) ∧
      ((∀ call path, rules.verify call path = some true) →
        (∀ entry ∈ cache.entries, entry.2 = true) →
        ∀ manifest, manifest ∈ yielded ↔ manifest ∈ group ∧ Superseded rules group manifest) := by
  have hstart : Predecessors rules [] { verified := cache } := ⟨rfl, rfl, rfl⟩
  obtain ⟨yielded, hyields⟩ := sweep_yields h (nil_append _).symm hstart
  have hmem : ∀ manifest,
      manifest ∈ (sweepOrder stamp group).filter (fun item => Superseded rules group item) ↔
        manifest ∈ group ∧ Superseded rules group manifest := by
    intro manifest
    rw [mem_filter, mem_sweepOrder, decide_eq_true_eq]
  have hnodup : ((sweepOrder stamp group).filter
      (fun item => Superseded rules group item)).Nodup :=
    ((sweepOrder_perm stamp group).nodup_iff.mpr h.distinct.of_map).filter _
  refine ⟨yielded, ?_, hyields.sublist.nodup hnodup, ?_, ?_⟩
  · have heligible : (eligibleInGroup stamp rules (cache, found) group).2 =
        found ++ ([] ++ yielded) := congrArg (found ++ ·) hyields.eligible
    rw [heligible, nil_append]
  · exact fun manifest hmanifest => (hmem manifest).mp (hyields.sublist.subset hmanifest)
  · intro haccepts hcache manifest
    rw [hyields.accepting haccepts hcache]
    exact hmem manifest

/-- The wide revision covers the narrow one, and it is published by the cutoff. -/
theorem eligibleInGroup_plain_revisions :
    ManifestGroup timestamp [narrowRevision, wideRevision] ∧
      ∃ yielded, (eligibleInGroup timestamp ⟨[], fun _ _ => some true, 60⟩
          (.empty, []) [narrowRevision, wideRevision]).2 = [] ++ yielded ∧
        ∀ manifest, manifest ∈ yielded ↔
          manifest ∈ [narrowRevision, wideRevision] ∧
            Superseded ⟨[], fun _ _ => some true, 60⟩ [narrowRevision, wideRevision] manifest := by
  have hgroup : ManifestGroup timestamp [narrowRevision, wideRevision] :=
    { distinct := by decide
      apart := by decide +kernel
      resolves := resolves_of_recent (by unfold Recent; decide +kernel) }
  obtain ⟨yielded, hyields, -, -, haccepting⟩ :=
    eligibleInGroup_plain hgroup ⟨[], fun _ _ => some true, 60⟩ .empty []
  exact ⟨hgroup, yielded, hyields, haccepting (fun _ _ => rfl) (by simp [Dict.empty])⟩

/-! ## Past the range of a double -/

/-- The instant one microsecond into the year 2300. -/
def farFuture : Time := 10413792000000001

/-- It ends at that microsecond, and is published last. -/
def shorterFuture : ManifestFacts :=
  { narrowRevision with endsAt := farFuture, publishedAt := 30, nonempty := by decide }

/-- It ends a microsecond later. -/
def longerFuture : ManifestFacts :=
  { wideRevision with endsAt := farFuture + 1, publishedAt := 20, nonempty := by decide }

/-- The longer one covers the shorter one by the cutoff, but their ends share a key, so the shorter
comes first and is kept. -/
theorem farFuture_kept :
    (∀ first ∈ [shorterFuture, longerFuture], ∀ second ∈ [shorterFuture, longerFuture],
        first.startsAt = second.startsAt → first.endsAt = second.endsAt →
        first.publishedAt = second.publishedAt → first = second) ∧
      timestamp shorterFuture.endsAt = timestamp longerFuture.endsAt ∧
      (eligibleInGroup timestamp ⟨[], fun _ _ => some true, 60⟩
        (.empty, []) [shorterFuture, longerFuture]).2 = [] ∧
      Superseded ⟨[], fun _ _ => some true, 60⟩ [shorterFuture, longerFuture] shorterFuture := by
  decide +kernel

end Thytrader.MarketData
