import Mathlib.Data.List.Induction
import Mathlib.Data.List.Sort

/-!
# Merging a history row by row

Several rows describe one thing at different times. A rule gives each row an age and a
weight and says which pairs clash; `merge` folds the rows oldest first, keeping one row.
A newer row that neither clashes nor weighs more replaces the kept one, equally old rows
leave the lighter one, and after the first contradiction only lighter rows are taken and
the history is flagged for good.

Equally old rows may come in any order: `merge_determined_iff` says for which sets of rows the fold
ends the same in every chronological order.
-/

namespace Thytrader.Lib

open List

/-- How rows of one history compare. -/
structure HistoryRule (α τ ρ : Type) where
  age : α → τ
  weight : α → ρ
  clash : α → α → Prop

namespace HistoryRule

variable {α τ ρ : Type} [LinearOrder τ] [LinearOrder ρ]
variable (rule : HistoryRule α τ ρ) [DecidableRel rule.clash]

/-- Agreement carries along time, and equally old rows clash both ways. -/
structure Coherent : Prop where
  trans : ∀ a x r, rule.age a ≤ rule.age x → rule.age x ≤ rule.age r → ¬ rule.clash a x →
    ¬ rule.clash x r → ¬ rule.clash a r
  symm : ∀ a b, rule.age a = rule.age b → rule.clash a b → rule.clash b a

/-- A later row contradicts an earlier one: they clash, or the weight grew. -/
def Contradicts (a b : α) : Prop :=
  rule.clash a b ∨ (rule.age a < rule.age b ∧ rule.weight a < rule.weight b)

instance : DecidableRel rule.Contradicts := fun _ _ => inferInstanceAs (Decidable (_ ∨ _))

/-- The lighter of two rows; the kept one on a tie. -/
def lighter (x r : α) : α := if rule.weight x ≤ rule.weight r then x else r

/-- One row onto the kept row: the flag, then the row. -/
def step (s : Bool × α) (r : α) : Bool × α :=
  let flag := s.1 || decide (rule.Contradicts s.2 r)
  (flag, if flag = true ∨ rule.age s.2 = rule.age r then rule.lighter s.2 r else r)

/-- One row onto what was kept so far, if anything. -/
def stepFrom (s : Option (Bool × α)) (r : α) : Option (Bool × α) :=
  match s with
  | none => some (false, r)
  | some kept => some (rule.step kept r)

/-- The rows merged in the given order. -/
def merge (rows : List α) : Option (Bool × α) := rows.foldl rule.stepFrom none

/-- Oldest first. -/
def Chronological (rows : List α) : Prop :=
  rows.Pairwise (fun a b => rule.age a ≤ rule.age b)

/-- An order the rows may be merged in. -/
def Ordering (rows order : List α) : Prop := order.Perm rows ∧ rule.Chronological order

/-- No two rows up to `t` contradict each other. -/
def Consistent (rows : List α) (t : τ) : Prop :=
  ∀ a ∈ rows, ∀ b ∈ rows, a ≠ b → rule.age a ≤ rule.age b → rule.age b ≤ t → ¬ rule.Contradicts a b

/-- The rows up to `t` merge without a contradiction: none clash, and every age has a row that
weighs no more than any older one. -/
def Mergeable (rows : List α) (t : τ) : Prop :=
  (∀ a ∈ rows, ∀ b ∈ rows, a ≠ b → rule.age a ≤ rule.age b → rule.age b ≤ t → ¬ rule.clash a b) ∧
  ∀ b ∈ rows, rule.age b ≤ t → ∃ c ∈ rows, rule.age c = rule.age b ∧
    ∀ a ∈ rows, rule.age a < rule.age b → rule.weight c ≤ rule.weight a

/-- Every row of the age that follows `p`'s contradicts `p`. -/
def NextContradicts (rows : List α) (p : α) : Prop :=
  ∀ r ∈ rows, rule.age p < rule.age r →
    (∀ q ∈ rows, rule.age p < rule.age q → rule.age r ≤ rule.age q) → rule.Contradicts p r

/-- The rows force the row that is kept: it is the lightest, alone so at its age, and
either nothing up to its age is contradictory and the next age contradicts it, or it is
lighter than every older row and, where it could be merged cleanly, the next age exists
and contradicts it. -/
def Forces (rows : List α) (p : α) : Prop :=
  p ∈ rows ∧ (∀ q ∈ rows, rule.weight p ≤ rule.weight q) ∧
  (∀ q ∈ rows, q ≠ p → rule.age q = rule.age p → rule.weight p < rule.weight q) ∧
  ((rule.Consistent rows (rule.age p) ∧ rule.NextContradicts rows p) ∨
    ((∀ q ∈ rows, rule.age q < rule.age p → rule.weight p < rule.weight q) ∧
      (rule.Mergeable rows (rule.age p) →
        (∃ q ∈ rows, rule.age p < rule.age q) ∧ rule.NextContradicts rows p)))

section

variable [DecidableEq α]

instance (rows : List α) (t : τ) : Decidable (rule.Consistent rows t) :=
  inferInstanceAs (Decidable (∀ a ∈ rows, ∀ b ∈ rows, a ≠ b → rule.age a ≤ rule.age b →
    rule.age b ≤ t → ¬ rule.Contradicts a b))

instance (rows : List α) (t : τ) : Decidable (rule.Mergeable rows t) :=
  inferInstanceAs (Decidable ((∀ a ∈ rows, ∀ b ∈ rows, a ≠ b → rule.age a ≤ rule.age b →
    rule.age b ≤ t → ¬ rule.clash a b) ∧ ∀ b ∈ rows, rule.age b ≤ t → ∃ c ∈ rows,
      rule.age c = rule.age b ∧ ∀ a ∈ rows, rule.age a < rule.age b →
        rule.weight c ≤ rule.weight a))

instance (rows : List α) (p : α) : Decidable (rule.NextContradicts rows p) :=
  inferInstanceAs (Decidable (∀ r ∈ rows, rule.age p < rule.age r →
    (∀ q ∈ rows, rule.age p < rule.age q → rule.age r ≤ rule.age q) → rule.Contradicts p r))

instance (rows : List α) : DecidablePred (rule.Forces rows) := fun _ =>
  inferInstanceAs (Decidable (_ ∧ _ ∧ _ ∧ (_ ∨ _)))

end

/-! ## One step and one run -/

variable {rule}

theorem merge_append_singleton (rows : List α) (r : α) :
    rule.merge (rows ++ [r]) = rule.stepFrom (rule.merge rows) r := by
  unfold merge
  rw [foldl_append, foldl_cons, foldl_nil]

variable {rows : List α}

theorem merge_ne_none (h : rows ≠ []) : ∃ s, rule.merge rows = some s := by
  induction rows using List.reverseRecOn with
  | nil => exact absurd rfl h
  | append_singleton rows =>
    rw [merge_append_singleton]
    cases rule.merge rows with
    | none | some => exact ⟨_, rfl⟩

variable {s : Bool × α} {older : List α}

/-- The kept row afterwards was merged later or was kept before. -/
theorem base_append {newer : List α} (h : rule.merge (older ++ newer) = some s) :
    s.2 ∈ newer ∨ ∃ f, rule.merge older = some (f, s.2) := by
  induction newer using List.reverseRecOn generalizing s with
  | nil =>
    rw [append_nil] at h
    exact .inr ⟨s.1, h⟩
  | append_singleton newer r ih =>
    rw [← append_assoc, merge_append_singleton] at h
    cases hmerged : rule.merge (older ++ newer) with
    | none =>
      rw [hmerged] at h
      cases h
      exact .inl (by simp)
    | some kept =>
      rw [hmerged] at h
      cases h
      have hbase : (rule.step kept r).2 = kept.2 ∨ (rule.step kept r).2 = r := by
        unfold step lighter
        dsimp only
        split
        · split
          · exact .inl rfl
          · exact .inr rfl
        · exact .inr rfl
      rcases hbase with hsame | hnew
      · rw [hsame]
        rcases ih hmerged with hmem | hkept
        · exact .inl (by simp [hmem])
        · exact .inr hkept
      · rw [hnew]
        exact .inl (by simp)

theorem base_mem (h : rule.merge rows = some s) : s.2 ∈ rows := by
  have hrows : rule.merge ([] ++ rows) = some s := h
  rcases base_append hrows with hmem | ⟨f, hf⟩
  · exact hmem
  · exact absurd hf (by simp [merge])

theorem flag_append {x : α} (newer : List α) (h : rule.merge older = some (true, x)) :
    ∃ y, rule.merge (older ++ newer) = some (true, y) := by
  induction newer using List.reverseRecOn with
  | nil => exact ⟨x, by rw [append_nil]; exact h⟩
  | append_singleton _ _ ih =>
    obtain ⟨y, hy⟩ := ih
    rw [← append_assoc, merge_append_singleton, hy]
    exact ⟨_, by simp [stepFrom, step]; rfl⟩

/-- What a chronological run keeps: the lightest row seen and, unflagged, one of the
newest of rows that merge cleanly. -/
structure Kept (rule : HistoryRule α τ ρ) (rows : List α) (s : Bool × α) : Prop where
  mem : s.2 ∈ rows
  lightest : ∀ q ∈ rows, rule.weight s.2 ≤ rule.weight q
  newest : s.1 = false → ∀ q ∈ rows, rule.age q ≤ rule.age s.2
  agree : s.1 = false → ∀ a ∈ rows, ∀ b ∈ rows, a ≠ b → rule.age a ≤ rule.age b → ¬ rule.clash a b
  light : s.1 = false → ∀ b ∈ rows, ∃ c ∈ rows, rule.age c = rule.age b ∧
    ∀ a ∈ rows, rule.age a < rule.age b → rule.weight c ≤ rule.weight a

omit [LinearOrder τ] [DecidableRel rule.clash] in
theorem weight_lighter_le (x r : α) :
    rule.weight (rule.lighter x r) ≤ rule.weight x ∧
      rule.weight (rule.lighter x r) ≤ rule.weight r := by
  unfold lighter
  split
  next h => exact ⟨le_refl _, h⟩
  next h => exact ⟨le_of_not_ge h, le_refl _⟩

/-- Everything one step can do from a kept row that is not newer. -/
theorem step_cases (s : Bool × α) (r : α) (hage : rule.age s.2 ≤ rule.age r) :
    (rule.step s r = (true, rule.lighter s.2 r) ∧ (s.1 = true ∨ rule.Contradicts s.2 r)) ∨
    (rule.step s r = (false, rule.lighter s.2 r) ∧ s.1 = false ∧ ¬ rule.Contradicts s.2 r ∧
      rule.age s.2 = rule.age r) ∨
    (rule.step s r = (false, r) ∧ s.1 = false ∧ ¬ rule.Contradicts s.2 r ∧
      rule.age s.2 < rule.age r ∧ rule.weight r ≤ rule.weight s.2) := by
  obtain ⟨f, x⟩ := s
  by_cases hflag : f = true ∨ rule.Contradicts x r
  · refine .inl ⟨?_, hflag⟩
    have hor : (f || decide (rule.Contradicts x r)) = true := by simpa using hflag
    simp only [step, hor, true_or, if_true]
  · obtain ⟨hf, hclean⟩ := not_or.mp hflag
    have hor : (f || decide (rule.Contradicts x r)) = false := by simp [hf, hclean]
    have hf : f = false := by simpa using hf
    rcases hage.eq_or_lt with heq | hlt
    · refine .inr (.inl ⟨?_, hf, hclean, heq⟩)
      simp only [step, hor, heq, or_true, if_true]
    · refine .inr (.inr ⟨?_, hf, hclean, hlt, ?_⟩)
      · simp only [step, hor, Bool.false_eq_true, hlt.ne, or_self, if_false]
      · exact not_lt.mp fun h => hclean (.inr ⟨hlt, h⟩)

theorem forall_mem_concat {p : α → Prop} {r : α} :
    (∀ q ∈ rows ++ [r], p q) ↔ (∀ q ∈ rows, p q) ∧ p r := by
  rw [forall_mem_append, forall_mem_singleton]

theorem kept_step (hrule : rule.Coherent) {r : α} (h : Kept rule rows s)
    (hold : ∀ q ∈ rows, rule.age q ≤ rule.age r) : Kept rule (rows ++ [r]) (rule.step s r) := by
  have hclean : s.1 = false → ¬ rule.Contradicts s.2 r → ∀ a ∈ rows ++ [r], ∀ b ∈ rows ++ [r],
      a ≠ b → rule.age a ≤ rule.age b → ¬ rule.clash a b := by
    intro hf hnot
    have hr : ∀ a ∈ rows, ¬ rule.clash a r := by
      intro a ha
      by_cases he : a = s.2
      · rw [he]
        exact fun hc => hnot (.inl hc)
      · have hle := h.newest hf a ha
        exact hrule.trans a s.2 r hle (hold _ h.mem) (h.agree hf a ha _ h.mem he hle)
          fun hc => hnot (.inl hc)
    intro a ha b hb hne hle
    rw [mem_append, mem_singleton] at ha hb
    rcases ha with ha | rfl
    · rcases hb with hb | rfl
      · exact h.agree hf a ha b hb hne hle
      · exact hr a ha
    · rcases hb with hb | rfl
      · have heq := le_antisymm hle (hold b hb)
        exact fun hc => hr b hb (hrule.symm a b heq hc)
      · exact absurd rfl hne
  -- a light row of an age already seen stays one
  have hseen : s.1 = false → ∀ b ∈ rows, ∃ c ∈ rows ++ [r], rule.age c = rule.age b ∧
      ∀ a ∈ rows ++ [r], rule.age a < rule.age b → rule.weight c ≤ rule.weight a := by
    intro hf b hb
    obtain ⟨c, hc, hage, hlight⟩ := h.light hf b hb
    refine ⟨c, by simp [hc], hage, forall_mem_concat.mpr ⟨hlight, fun hlt => ?_⟩⟩
    exact absurd (hold b hb) (not_le.mpr hlt)
  obtain ⟨hx, hr⟩ : rule.weight (rule.lighter s.2 r) ≤ rule.weight s.2 ∧
      rule.weight (rule.lighter s.2 r) ≤ rule.weight r := weight_lighter_le s.2 r
  have hmem : rule.lighter s.2 r ∈ rows ++ [r] := by
    unfold lighter
    split
    · exact mem_append_left _ h.mem
    · simp
  have hlightest : ∀ q ∈ rows ++ [r], rule.weight (rule.lighter s.2 r) ≤ rule.weight q :=
    forall_mem_concat.mpr ⟨fun q hq => hx.trans (h.lightest q hq), hr⟩
  have hnewest : ∀ q ∈ rows ++ [r], rule.age q ≤ rule.age r := forall_mem_concat.mpr ⟨hold, le_rfl⟩
  rcases step_cases s r (hold _ h.mem) with ⟨hstep, -⟩ | ⟨hstep, hf, hnot, hage⟩ |
    ⟨hstep, hf, hnot, hage, hweight⟩
  · rw [hstep]
    exact ⟨hmem, hlightest, by simp, by simp, by simp⟩
  · rw [hstep]
    have hbase : rule.age (rule.lighter s.2 r) = rule.age r := by
      unfold lighter
      split
      · exact hage
      · rfl
    refine ⟨hmem, hlightest, fun _ => ?_, fun _ => hclean hf hnot, fun _ => ?_⟩
    · rw [hbase]
      exact hnewest
    · obtain ⟨c, hc, hcage, hlight⟩ := hseen hf s.2 h.mem
      exact forall_mem_concat.mpr
        ⟨hseen hf, c, hc, hcage.trans hage, by rw [← hage]; exact hlight⟩
  · rw [hstep]
    have hlight : ∀ q ∈ rows ++ [r], rule.weight r ≤ rule.weight q :=
      forall_mem_concat.mpr ⟨fun q hq => hweight.trans (h.lightest q hq), le_rfl⟩
    refine ⟨by simp, hlight, fun _ => hnewest, fun _ => hclean hf hnot, fun _ => ?_⟩
    exact forall_mem_concat.mpr ⟨hseen hf, r, by simp, rfl, fun a ha _ => hlight a ha⟩

theorem kept_merge (hrule : rule.Coherent) (hchron : rule.Chronological rows)
    (h : rule.merge rows = some s) : Kept rule rows s := by
  induction rows using List.reverseRecOn generalizing s with
  | nil => exact absurd h (by simp [merge])
  | append_singleton rows r ih =>
    obtain ⟨hrows, -, hold⟩ := pairwise_append.mp hchron
    have hold : ∀ q ∈ rows, rule.age q ≤ rule.age r := fun q hq => hold q hq r (by simp)
    rw [merge_append_singleton] at h
    cases hmerged : rule.merge rows with
    | none =>
      rw [hmerged] at h
      cases h
      have hnil : rows = [] := by
        by_contra hne
        obtain ⟨s, hs⟩ : ∃ s, rule.merge rows = some s := merge_ne_none hne
        rw [hmerged] at hs
        cases hs
      subst hnil
      exact ⟨by simp, by simp, by simp, by simp, by simp⟩
    | some =>
      rw [hmerged] at h
      cases h
      exact kept_step hrule (ih hrows hmerged) hold

/-! ## Runs that merge cleanly -/

omit [DecidableRel rule.clash] in
/-- An unflagged run over every row up to `t` shows them mergeable. -/
theorem Kept.mergeable {rows seen : List α} {t : τ} (h : Kept rule seen s) (hf : s.1 = false)
    (hseen : ∀ q, q ∈ seen → q ∈ rows) (hall : ∀ q ∈ rows, rule.age q ≤ t → q ∈ seen) :
    rule.Mergeable rows t := by
  refine ⟨?_, ?_⟩
  · intro a ha b hb hne hle ht
    exact h.agree hf a (hall a ha (hle.trans ht)) b (hall b hb ht) hne hle
  · intro b hb ht
    obtain ⟨c, hc, hage, hlight⟩ := h.light hf b (hall b hb ht)
    exact ⟨c, hseen c hc, hage, fun a ha hlt => hlight a (hall a ha (hlt.le.trans ht)) hlt⟩

section

variable (hrule : rule.Coherent) {rows : List α} (hchron : rule.Chronological rows)
include hrule hchron

theorem merge_unflagged (hne : rows ≠ []) (hclean : ∀ seen r rest x, rows = seen ++ r :: rest →
      Kept rule seen (false, x) → ¬ rule.Contradicts x r) :
    ∃ x, rule.merge rows = some (false, x) := by
  induction rows using List.reverseRecOn with
  | nil => exact absurd rfl hne
  | append_singleton rows r ih =>
    obtain ⟨hrows, -, hold⟩ := pairwise_append.mp hchron
    rw [merge_append_singleton]
    by_cases hnil : rows = []
    · subst hnil
      exact ⟨r, rfl⟩
    · obtain ⟨x, hx⟩ := ih hrows hnil fun seen r' rest x heq hkept =>
        hclean seen r' (rest ++ [r]) x (by rw [heq, append_assoc, cons_append]) hkept
      have hkept := kept_merge hrule hrows hx
      have hnot := hclean rows r [] x rfl hkept
      rw [hx]
      rcases step_cases (false, x) r (hold x hkept.mem r (by simp)) with ⟨-, hbad⟩ |
        ⟨hstep, -⟩ | ⟨hstep, -⟩
      · exact absurd (hbad.resolve_left (by simp)) hnot
      · exact ⟨_, by rw [stepFrom, hstep]⟩
      · exact ⟨_, by rw [stepFrom, hstep]⟩

theorem merge_consistent (hnodup : rows.Nodup) (hne : rows ≠ [])
    (h : ∀ a ∈ rows, ∀ b ∈ rows, a ≠ b → rule.age a ≤ rule.age b → ¬ rule.Contradicts a b) :
    ∃ x, rule.merge rows = some (false, x) := by
  refine merge_unflagged hrule hchron hne ?_
  rintro seen r rest x rfl hkept
  have hx := hkept.mem
  refine h x (by simp [hx]) r (by simp) ?_ ?_
  · rintro rfl
    exact (nodup_append.mp hnodup).2.2 x hx x (by simp) rfl
  · exact (pairwise_append.mp hchron).2.2 x hx r (by simp)

end

variable {rest : List α}

/-- A flagged run keeps a row that nothing later is lighter than. -/
theorem merge_frozen {seen : List α} {p : α} (h : rule.merge seen = some (true, p))
    (hlight : ∀ q ∈ rest, rule.weight p ≤ rule.weight q) :
    rule.merge (seen ++ rest) = some (true, p) := by
  induction rest using List.reverseRecOn with
  | nil => rwa [append_nil]
  | append_singleton _ r ih =>
    rw [← append_assoc, merge_append_singleton, ih fun q hq => hlight q (by simp [hq])]
    have hkeep : rule.lighter p r = p := if_pos (hlight r (by simp))
    simp [stepFrom, step, hkeep]

/-! ## A forced row is kept in every order -/

section

variable {rows order : List α} {p : α}

theorem Forces.merge_place (h : rule.Forces rows p) (hrule : rule.Coherent)
    {older : List α} (hchron : rule.Chronological (older ++ [p])) (hnodup : (older ++ [p]).Nodup)
    (hsub : ∀ q ∈ older, q ∈ rows) : ∃ f, rule.merge (older ++ [p]) = some (f, p) := by
  obtain ⟨hrows, -, hold⟩ := pairwise_append.mp hchron
  obtain ⟨hp, hlightest, hunique, hcases⟩ := h
  rw [merge_append_singleton]
  cases hmerged : rule.merge older with
  | none => exact ⟨false, rfl⟩
  | some s =>
    obtain ⟨f, y⟩ := s
    have hkept := kept_merge hrule hrows hmerged
    have hy : y ∈ rows := hsub y hkept.mem
    have hage : rule.age y ≤ rule.age p := hold y hkept.mem p (by simp)
    have hne : y ≠ p := by
      rintro rfl
      exact (nodup_append.mp hnodup).2.2 y hkept.mem y (by simp) rfl
    have htake : rule.weight p < rule.weight y → rule.lighter y p = p := fun hlt =>
      if_neg (not_le.mpr hlt)
    rcases step_cases (f, y) p hage with ⟨hstep, hflag⟩ | ⟨hstep, -, -, heq⟩ | ⟨hstep, -⟩
    · -- flagged: only a strictly lighter row is taken
      refine ⟨true, ?_⟩
      rw [stepFrom, hstep, htake]
      rcases hage.eq_or_lt with heq | hlt
      · exact hunique y hy hne heq
      · rcases hcases with ⟨hconsistent, -⟩ | ⟨holder, -⟩
        · exfalso
          obtain ⟨x, hx⟩ := merge_consistent hrule hrows (nodup_append.mp hnodup).1
            (ne_nil_of_mem hkept.mem) fun a ha b hb hab hle =>
              hconsistent a (hsub a ha) b (hsub b hb) hab hle (hold b hb p (by simp))
          rw [hmerged] at hx
          cases hx
          exact hconsistent y hy p hp hne hage (le_refl _) (hflag.resolve_left (by simp))
        · exact holder y hy hlt
    · exact ⟨false, by rw [stepFrom, hstep, htake (hunique y hy hne heq)]⟩
    · exact ⟨false, by rw [stepFrom, hstep]⟩

theorem Forces.merge_peers (h : rule.Forces rows p) {seen peers : List α} {f : Bool}
    (hmerged : rule.merge seen = some (f, p))
    (hpeers : ∀ q ∈ peers, q ∈ rows ∧ rule.age q = rule.age p) :
    ∃ f, rule.merge (seen ++ peers) = some (f, p) := by
  obtain ⟨-, hlightest, -⟩ := h
  induction peers using List.reverseRecOn with
  | nil => exact ⟨f, by rwa [append_nil]⟩
  | append_singleton _ r ih =>
    obtain ⟨g, hg⟩ := ih fun q hq => hpeers q (by simp [hq])
    obtain ⟨hr, hage⟩ := hpeers r (by simp)
    have hkeep : rule.lighter p r = p := if_pos (hlightest r hr)
    rw [← append_assoc, merge_append_singleton, hg]
    refine ⟨g || decide (rule.Contradicts p r), ?_⟩
    simp [stepFrom, step, hkeep, hage]

omit [LinearOrder ρ] [DecidableRel rule.clash] in
theorem chronological_split {tail : List α} (t : τ) (hchron : rule.Chronological tail)
    (hge : ∀ q ∈ tail, t ≤ rule.age q) :
    ∃ peers newer, tail = peers ++ newer ∧ (∀ q ∈ peers, rule.age q = t) ∧
      ∀ q ∈ newer, t < rule.age q := by
  induction tail with
  | nil => exact ⟨[], [], rfl, by simp, by simp⟩
  | cons r rest ih =>
    obtain ⟨hr, hrest⟩ := pairwise_cons.mp hchron
    by_cases heq : rule.age r = t
    · obtain ⟨peers, newer, rfl, hpeers, hnewer⟩ := ih hrest fun q hq => hge q (by simp [hq])
      refine ⟨r :: peers, newer, rfl, ?_, hnewer⟩
      rintro q (_ | ⟨_, hq⟩)
      · exact heq
      · exact hpeers q hq
    · have hlt : t < rule.age r := lt_of_le_of_ne (hge r (by simp)) (Ne.symm heq)
      refine ⟨[], r :: rest, rfl, by simp, ?_⟩
      rintro q (_ | ⟨_, hq⟩)
      · exact hlt
      · exact hlt.trans_le (hr q hq)

/-- Every order ends with it, flagged exactly when newer rows follow it or rows up to its age
contradict each other. -/
theorem Forces.merge_eq (h : rule.Forces rows p) (hrule : rule.Coherent) (hnodup : rows.Nodup)
    (horder : rule.Ordering rows order) :
    ∃ f, rule.merge order = some (f, p) ∧ (f = true ↔ (∃ q ∈ rows, rule.age p < rule.age q) ∨
      ¬ rule.Consistent rows (rule.age p)) := by
  obtain ⟨hperm, hchron⟩ := horder
  have hmem : ∀ q, q ∈ order ↔ q ∈ rows := fun q => hperm.mem_iff
  obtain ⟨older, tail, horder⟩ := append_of_mem ((hmem p).mpr h.1)
  have hnodup : order.Nodup := hperm.nodup_iff.mpr hnodup
  rw [append_cons] at horder
  subst horder
  obtain ⟨hplace, htail, hafter⟩ := pairwise_append.mp hchron
  have hsub : ∀ q ∈ older, q ∈ rows := fun q hq => (hmem q).mp (by simp [hq])
  obtain ⟨peers, newer, rfl, hpeers, hnewer⟩ := chronological_split (rule.age p) htail
    fun q hq => hafter p (by simp) q hq
  obtain ⟨f, hf⟩ := h.merge_place hrule hplace (nodup_append.mp hnodup).1 hsub
  obtain ⟨g, hg⟩ := h.merge_peers hf fun q hq => ⟨(hmem q).mp (by simp [hq]), hpeers q hq⟩
  rw [← append_assoc] at hchron hnodup hmem ⊢
  obtain ⟨hseen, -, hfollow⟩ := pairwise_append.mp hchron
  have hkept := kept_merge hrule hseen hg
  -- the rows up to the forced row's age are exactly those merged so far
  have hall : ∀ q ∈ rows, rule.age q ≤ rule.age p → q ∈ older ++ [p] ++ peers := by
    intro q hq hle
    rcases mem_append.mp ((hmem q).mpr hq) with hin | hnew
    · exact hin
    · exact absurd (hnewer q hnew) (not_lt.mpr hle)
  have hpast : ∀ q ∈ older ++ [p] ++ peers, ¬ rule.age p < rule.age q := by
    intro q hin hlt
    rw [mem_append, mem_append, mem_singleton] at hin
    rcases hin with (hin | rfl) | hin
    · exact absurd ((pairwise_append.mp hplace).2.2 q hin p (by simp)) (not_le.mpr hlt)
    · exact lt_irrefl _ hlt
    · exact hlt.ne' (hpeers q hin)
  have hclean : g = false → rule.Mergeable rows (rule.age p) := fun hfalse =>
    hkept.mergeable hfalse (fun q hq => (hmem q).mp (mem_append_left _ hq)) hall
  cases newer with
  | nil =>
    have hnone : ¬ ∃ q ∈ rows, rule.age p < rule.age q := by
      rintro ⟨q, hq, hlt⟩
      exact hpast q (by simpa using (hmem q).mpr hq) hlt
    refine ⟨g, by rwa [append_nil], ?_⟩
    rw [or_iff_right hnone]
    constructor
    · rintro rfl hconsistent
      obtain ⟨x, hx⟩ := merge_consistent hrule hseen
        (by rw [append_nil] at hnodup; exact hnodup) (ne_nil_of_mem hkept.mem)
        fun a ha b hb hab hle => hconsistent a ((hmem a).mp (by simpa using ha)) b
          ((hmem b).mp (by simpa using hb)) hab hle
          (not_lt.mp fun hlt => hnone ⟨b, (hmem b).mp (by simpa using hb), hlt⟩)
      rw [hg] at hx
      exact absurd (Prod.mk.inj (Option.some.inj hx)).1 (by simp)
    · intro hinconsistent
      by_contra hfalse
      rcases h.2.2.2 with ⟨hconsistent, -⟩ | ⟨-, hnext⟩
      · exact hinconsistent hconsistent
      · exact hnone (hnext (hclean (by simpa using hfalse))).1
  | cons r =>
    have hr : r ∈ rows := (hmem r).mp (by simp)
    have hlt : rule.age p < rule.age r := hnewer r (by simp)
    refine ⟨true, ?_, by simp [show ∃ q ∈ rows, rule.age p < rule.age q from ⟨r, hr, hlt⟩]⟩
    have hnext : ∀ q ∈ rows, rule.age p < rule.age q → rule.age r ≤ rule.age q := by
      intro q hq hltq
      rcases mem_append.mp ((hmem q).mpr hq) with hin | hnew
      · exact absurd hltq (hpast q hin)
      · rcases mem_cons.mp hnew with rfl | hrest
        · exact le_refl _
        · exact (pairwise_cons.mp (pairwise_append.mp hchron).2.1).1 q hrest
    -- flagged already, or by the first newer row
    have hflag : (g || decide (rule.Contradicts p r)) = true := by
      cases hgv : g with
      | true => rfl
      | false =>
        have hcontra : rule.Contradicts p r := by
          rcases h.2.2.2 with ⟨-, hcontra⟩ | ⟨-, hcontra⟩
          · exact hcontra r hr hlt hnext
          · exact (hcontra (hclean hgv)).2 r hr hlt hnext
        simp [hcontra]
    have hkeep : rule.lighter p r = p := if_pos (h.2.1 r hr)
    have hstep : rule.merge (older ++ [p] ++ peers ++ [r]) = some (true, p) := by
      rw [merge_append_singleton, hg]
      simp only [stepFrom, step, hflag, true_or, if_true, hkeep]
    rw [append_cons]
    exact merge_frozen hstep fun q hq => h.2.1 q ((hmem q).mp (by simp [hq]))

end

/-! ## Orders that put one row first -/

section

open Classical

/-- By age, then the special row, then by weight. -/
def before (rule : HistoryRule α τ ρ) (special a b : α) : Prop :=
  rule.age a < rule.age b ∨
    (rule.age a = rule.age b ∧ (a = special ∨ (b ≠ special ∧ rule.weight a ≤ rule.weight b)))

/-- The rows oldest first, the special row first of its age, the lightest first elsewhere. -/
noncomputable def orderWith (rule : HistoryRule α τ ρ) (rows : List α) (special : α) : List α :=
  rows.insertionSort (rule.before special)

variable {rows : List α} {special : α}
omit [DecidableRel rule.clash]

theorem before_total (a b : α) : rule.before special a b ∨ rule.before special b a := by
  rcases lt_trichotomy (rule.age a) (rule.age b) with hlt | heq | hgt
  · exact .inl (.inl hlt)
  · by_cases ha : a = special
    · exact .inl (.inr ⟨heq, .inl ha⟩)
    · by_cases hb : b = special
      · exact .inr (.inr ⟨heq.symm, .inl hb⟩)
      · rcases le_total (rule.weight a) (rule.weight b) with hle | hge
        · exact .inl (.inr ⟨heq, .inr ⟨hb, hle⟩⟩)
        · exact .inr (.inr ⟨heq.symm, .inr ⟨ha, hge⟩⟩)
  · exact .inr (.inl hgt)

theorem before_trans {a b c : α} (hab : rule.before special a b) (hbc : rule.before special b c) :
    rule.before special a c := by
  rcases hab with hab | ⟨hab, hfirst⟩
  · rcases hbc with hbc | ⟨hbc, -⟩
    · exact .inl (hab.trans hbc)
    · exact .inl (hbc ▸ hab)
  · rcases hbc with hbc | ⟨hbc, hsecond⟩
    · exact .inl (hab ▸ hbc)
    · refine .inr ⟨hab.trans hbc, ?_⟩
      rcases hfirst with ha | ⟨hb, hab⟩
      · exact .inl ha
      · rcases hsecond with hb' | ⟨hc, hbc⟩
        · exact absurd hb' hb
        · exact .inr ⟨hc, hab.trans hbc⟩

theorem pairwise_orderWith (rule : HistoryRule α τ ρ) (rows : List α) (special : α) :
    (rule.orderWith rows special).Pairwise (rule.before special) := by
  have : Std.Total (rule.before special) := ⟨before_total⟩
  have : IsTrans α (rule.before special) := ⟨fun _ _ _ => before_trans⟩
  exact pairwise_insertionSort (rule.before special) rows

theorem ordering_orderWith (rule : HistoryRule α τ ρ) (rows : List α) (special : α) :
    rule.Ordering rows (rule.orderWith rows special) := by
  refine ⟨perm_insertionSort _ rows, ?_⟩
  refine (pairwise_orderWith rule rows special).imp ?_
  intro a b hab
  rcases hab with hlt | ⟨heq, -⟩
  · exact hlt.le
  · exact heq.le

theorem orderWith_split (rule : HistoryRule α τ ρ) (hnodup : rows.Nodup) (hspecial : special ∈ rows) :
    ∃ older rest, rule.orderWith rows special = older ++ special :: rest ∧
      (∀ q ∈ rows, q ∈ older ↔ rule.age q < rule.age special) ∧
      ∀ q ∈ older, rule.age q < rule.age special := by
  have hordering := rule.ordering_orderWith rows special
  have hmem : ∀ q, q ∈ rule.orderWith rows special ↔ q ∈ rows := fun q => hordering.1.mem_iff
  obtain ⟨older, rest, hsplit⟩ := append_of_mem ((hmem special).mpr hspecial)
  have hpairs := pairwise_orderWith rule rows special
  have hnodup := hordering.1.nodup_iff.mpr hnodup
  rw [hsplit] at hpairs hnodup
  obtain ⟨-, htail, hbefore⟩ := pairwise_append.mp hpairs
  have hlt : ∀ q ∈ older, rule.age q < rule.age special := by
    intro q hin
    rcases hbefore q hin special (by simp) with hlt | ⟨-, rfl | ⟨hne, -⟩⟩
    · exact hlt
    · exact absurd rfl ((nodup_append.mp hnodup).2.2 q hin q (by simp))
    · exact absurd rfl hne
  refine ⟨older, rest, hsplit, ?_, hlt⟩
  intro q hq
  constructor
  · exact hlt q
  · intro hlt
    have hin := (hmem q).mpr hq
    rw [hsplit, mem_append, mem_cons] at hin
    rcases hin with hin | rfl | hin
    · exact hin
    · exact absurd hlt (lt_irrefl _)
    · rcases (pairwise_cons.mp htail).1 q hin with hgt | ⟨heq, -⟩
      · exact absurd hlt (not_lt.mpr hgt.le)
      · exact absurd hlt (heq ▸ lt_irrefl _)

theorem special_before {older : List α} {p : α} (hspecial : special ∈ rows)
    (hsplit : rule.orderWith rows special = older ++ p :: rest) (hne : special ≠ p)
    (hage : rule.age special ≤ rule.age p) : special ∈ older := by
  have hin := (rule.ordering_orderWith rows special).1.mem_iff.mpr hspecial
  have hpairs := pairwise_orderWith rule rows special
  rw [hsplit] at hin hpairs
  rw [mem_append, mem_cons] at hin
  rcases hin with hin | he | hin
  · exact hin
  · exact absurd he hne
  · rcases (pairwise_cons.mp (pairwise_append.mp hpairs).2.1).1 special hin with
      hlt | ⟨-, he | ⟨hself, -⟩⟩
    · exact absurd hage (not_le.mpr hlt)
    · exact absurd he.symm hne
    · exact absurd rfl hself

end

variable {rows : List α}

omit [LinearOrder ρ] [DecidableRel rule.clash] in
theorem Ordering.older_of_lt {p q : α} (h : rule.Ordering rows (older ++ p :: rest))
    (hq : q ∈ rows) (hlt : rule.age q < rule.age p) : q ∈ older := by
  have hin := h.1.mem_iff.mpr hq
  rw [mem_append, mem_cons] at hin
  rcases hin with hin | rfl | hin
  · exact hin
  · exact absurd hlt (lt_irrefl _)
  · exact absurd ((pairwise_cons.mp (pairwise_append.mp h.2).2.1).1 q hin) (not_le.mpr hlt)

theorem merge_clean (hrule : rule.Coherent) {special : α} {t : τ}
    (hnodup : rows.Nodup) (hm : rule.Mergeable rows t)
    (hspecial : t < rule.age special ∨ ∀ q ∈ rows, rule.weight special ≤ rule.weight q)
    (hsplit : rule.orderWith rows special = older ++ rest) (hle : ∀ q ∈ older, rule.age q ≤ t)
    (hne : older ≠ []) : ∃ x, rule.merge older = some (false, x) := by
  obtain ⟨hperm, hchron⟩ := rule.ordering_orderWith rows special
  have hpairs := pairwise_orderWith rule rows special
  have hnodup := hperm.nodup_iff.mpr hnodup
  have hmem : ∀ q, q ∈ older ++ rest ↔ q ∈ rows := by
    intro q
    rw [← hsplit]
    exact hperm.mem_iff
  rw [hsplit] at hchron hpairs hnodup
  refine merge_unflagged hrule (pairwise_append.mp hchron).1 hne ?_
  rintro seen r later x rfl hkept
  have hx := hkept.mem
  have hxrows : x ∈ rows := (hmem x).mp (by simp [hx])
  have hrrows : r ∈ rows := (hmem r).mp (by simp)
  have hrt : rule.age r ≤ t := hle r (by simp)
  rw [append_assoc, cons_append] at hnodup hpairs hchron hmem
  have hxr : x ≠ r := by
    rintro rfl
    exact (nodup_append.mp hnodup).2.2 x hx x (by simp) rfl
  rintro (hclash | ⟨hage, hweight⟩)
  · exact hm.1 x hxrows r hrrows hxr ((pairwise_append.mp hchron).2.2 x hx r (by simp)) hrt hclash
  · -- `r` opens its age, so nothing of that age is lighter
    obtain ⟨c, hc, hcage, hlight⟩ := hm.2 r hrrows hrt
    have hcr : rule.weight c < rule.weight r := (hlight x hxrows hage).trans_lt hweight
    have hin := (hmem c).mpr hc
    rw [mem_append, mem_cons] at hin
    rcases hin with hseen | rfl | hlater
    · exact absurd (hkept.newest rfl c hseen) (not_le.mpr (hcage ▸ hage))
    · exact lt_irrefl _ hcr
    · rcases (pairwise_cons.mp (pairwise_append.mp hpairs).2.1).1 c hlater with
        hlt | ⟨-, rfl | ⟨-, hle⟩⟩
      · exact hlt.ne' hcage
      · rcases hspecial with hnew | hlightest
        · exact absurd hrt (not_le.mpr hnew)
        · exact absurd (hlightest c hc) (not_le.mpr hcr)
      · exact absurd hle (not_le.mpr hcr)

/-! ## Only a forced row is kept in every order -/

section

variable {rows : List α} {p : α} {f : Bool} {kept : Bool × α}

/-- A row its own step does not take is not kept in the end. -/
theorem base_ne_of_skipped {s : Bool × α} (hnodup : (older ++ p :: rest).Nodup)
    (hmerged : rule.merge older = some kept) (hskip : (rule.step kept p).2 ≠ p)
    (h : rule.merge (older ++ p :: rest) = some s) : s.2 ≠ p := by
  rw [append_cons] at h hnodup
  rcases base_append h with hmem | ⟨g, hg⟩
  · intro he
    exact (nodup_append.mp hnodup).2.2 p (by simp) s.2 hmem he.symm
  · rw [merge_append_singleton, hmerged] at hg
    have hstep : some (rule.step kept p) = some (g, s.2) := hg
    have hbase := congrArg Prod.snd (Option.some.inj hstep)
    exact fun he => hskip (hbase.trans he)

/-- A flagged, contradicted or equally old kept row that is no heavier is not replaced. -/
theorem step_skips (hage : rule.age kept.2 ≤ rule.age p)
    (hblock : kept.1 = true ∨ rule.Contradicts kept.2 p ∨ rule.age kept.2 = rule.age p)
    (hweight : rule.weight kept.2 ≤ rule.weight p) (hne : kept.2 ≠ p) :
    (rule.step kept p).2 ≠ p := by
  have hkeep : rule.lighter kept.2 p = kept.2 := if_pos hweight
  rcases step_cases kept p hage with ⟨hstep, -⟩ | ⟨hstep, -⟩ | ⟨-, hf, hclean, hlt, -⟩
  · rw [hstep]
    exact hkeep.trans_ne hne
  · rw [hstep]
    exact hkeep.trans_ne hne
  · rcases hblock with htrue | hbad | heq
    · rw [hf] at htrue
      cases htrue
    · exact absurd hbad hclean
    · exact absurd heq hlt.ne

variable (hrule : rule.Coherent) (hnodup : rows.Nodup)
  (hdet : ∀ order, rule.Ordering rows order → rule.merge order = some (f, p))

include hrule hnodup hdet

/-- In an order that ends with `p`, the step of `p` is not blocked by a row as light. -/
theorem taken_in_order (horder : rule.Ordering rows (older ++ p :: rest)) {q : α} (hq : q ∈ older)
    (hweight : rule.weight q ≤ rule.weight p) :
    ∃ y, rule.merge older = some (false, y) ∧ Kept rule older (false, y) ∧
      ¬ rule.Contradicts y p ∧ rule.age y < rule.age p := by
  have hnodup := horder.1.nodup_iff.mpr hnodup
  obtain ⟨hchron, -, hold⟩ := pairwise_append.mp horder.2
  obtain ⟨kept, hmerged⟩ : ∃ s, rule.merge older = some s :=
    merge_ne_none (ne_nil_of_mem hq)
  have hkept := kept_merge hrule hchron hmerged
  have hage := hold kept.2 hkept.mem p (by simp)
  have hne : kept.2 ≠ p := by
    intro he
    exact (nodup_append.mp hnodup).2.2 kept.2 hkept.mem p (by simp) he
  have hfree : ¬ (kept.1 = true ∨ rule.Contradicts kept.2 p ∨ rule.age kept.2 = rule.age p) := by
    intro hblock
    have hskip := step_skips hage hblock ((hkept.lightest q hq).trans hweight) hne
    exact base_ne_of_skipped hnodup hmerged hskip (hdet _ horder) rfl
  obtain ⟨hflag, hfree⟩ := not_or.mp hfree
  obtain ⟨hclean, hneq⟩ := not_or.mp hfree
  obtain ⟨g, y⟩ := kept
  obtain rfl : g = false := by simpa using hflag
  exact ⟨y, hmerged, hkept, hclean, lt_of_le_of_ne hage hneq⟩

omit hnodup in
theorem determined_mem : p ∈ rows ∧ ∀ q ∈ rows, rule.weight p ≤ rule.weight q := by
  obtain ⟨hperm, hchron⟩ := rule.ordering_orderWith rows p
  have hkept := kept_merge hrule hchron (hdet _ ⟨hperm, hchron⟩)
  exact ⟨hperm.mem_iff.mp hkept.mem, fun q hq => hkept.lightest q (hperm.mem_iff.mpr hq)⟩

/-- A peer of `p` comes before it, so no row as light is taken before `p` then. -/
theorem determined_peer {q o : α} (hq : q ∈ rows) (hne : q ≠ p) (hage : rule.age q = rule.age p)
    (ho : ∀ older rest, rule.Ordering rows (older ++ p :: rest) → q ∈ older → o ∈ older) :
    rule.weight p < rule.weight o := by
  by_contra hle
  obtain ⟨hp, -⟩ := determined_mem hrule hdet
  have hordering := rule.ordering_orderWith rows q
  obtain ⟨older, rest, hsplit⟩ := append_of_mem (hordering.1.mem_iff.mpr hp)
  have hin : q ∈ older := special_before hq hsplit hne hage.le
  rw [hsplit] at hordering
  obtain ⟨y, -, hkept, -, hlt⟩ := taken_in_order hrule hnodup hdet hordering
    (ho older rest hordering hin) (not_lt.mp hle)
  exact absurd (hkept.newest rfl q hin) (not_le.mpr (hage ▸ hlt))

theorem determined_unique {q : α} (hq : q ∈ rows) (hne : q ≠ p)
    (hage : rule.age q = rule.age p) : rule.weight p < rule.weight q :=
  determined_peer hrule hnodup hdet hq hne hage fun _ _ _ hin => hin

/-- A row that could follow a cleanly kept `p` contradicts it. -/
theorem determined_next {r : α} (hr : r ∈ rows) (hlt : rule.age p < rule.age r)
    (hclean : ∀ older rest, rule.orderWith rows r = older ++ r :: rest →
      (∀ q ∈ rows, q ∈ older ↔ rule.age q < rule.age r) → rule.merge older = some (false, p)) :
    rule.Contradicts p r := by
  by_contra hnot
  obtain ⟨hp, -⟩ := determined_mem hrule hdet
  obtain ⟨older, rest, hsplit, holder, -⟩ := rule.orderWith_split hnodup hr
  have hordering := rule.ordering_orderWith rows r
  have hmerged := hclean older rest hsplit holder
  have hfinal := hdet _ hordering
  have hnodup := hordering.1.nodup_iff.mpr hnodup
  have hin : p ∈ older := (holder p hp).mpr hlt
  rw [hsplit, append_cons] at hfinal hnodup
  rcases base_append hfinal with hmem | ⟨g, hg⟩
  · exact (nodup_append.mp hnodup).2.2 p (by simp [hin]) p hmem rfl
  · rw [merge_append_singleton, hmerged] at hg
    rcases step_cases (false, p) r hlt.le with ⟨-, hbad⟩ | ⟨-, -, -, heq⟩ | ⟨hstep, -⟩
    · exact hnot (hbad.resolve_left (by simp))
    · exact hlt.ne heq
    · rw [stepFrom, hstep] at hg
      have hrp : r = p := congrArg Prod.snd (Option.some.inj hg)
      exact hlt.ne (by rw [hrp])

omit hnodup hdet in
/-- A row that weighs more than an older one is flagged where it comes first of its age. -/
theorem growth_flagged {a b : α} (hchron : rule.Chronological older)
    (hlt : ∀ q ∈ older, rule.age q < rule.age b) (ha : a ∈ older)
    (hweight : rule.weight a < rule.weight b) :
    ∃ x, rule.merge (older ++ [b]) = some (true, x) := by
  obtain ⟨kept, hmerged⟩ : ∃ s, rule.merge older = some s :=
    merge_ne_none (ne_nil_of_mem ha)
  have hkept := kept_merge hrule hchron hmerged
  have hgrew : rule.Contradicts kept.2 b :=
    .inr ⟨hlt _ hkept.mem, (hkept.lightest a ha).trans_lt hweight⟩
  refine ⟨rule.lighter kept.2 b, ?_⟩
  rw [merge_append_singleton, hmerged]
  simp [stepFrom, step, hgrew]

theorem forces_of_lighter
    (hlighter : ∀ q ∈ rows, rule.age q < rule.age p → rule.weight p < rule.weight q) :
    rule.Forces rows p := by
  obtain ⟨hp, hlightest⟩ := determined_mem hrule hdet
  refine ⟨hp, hlightest, fun q hq hne hage => determined_unique hrule hnodup hdet hq hne hage, ?_⟩
  by_cases hm : rule.Mergeable rows (rule.age p)
  case neg => exact .inr ⟨hlighter, fun h => absurd h hm⟩
  -- the rows up to `p`'s age merge cleanly to `p` when every age starts with its lightest
  have hclean : ∀ special older rest,
      (rule.age p < rule.age special ∨ ∀ q ∈ rows, rule.weight special ≤ rule.weight q) →
      rule.orderWith rows special = older ++ rest → p ∈ older →
      (∀ q ∈ older, rule.age q ≤ rule.age p) → rule.merge older = some (false, p) := by
    intro special older rest hspecial hsplit hin hle
    obtain ⟨x, hx⟩ := merge_clean hrule hnodup hm hspecial hsplit hle (ne_nil_of_mem hin)
    obtain ⟨hperm, hchron⟩ := rule.ordering_orderWith rows special
    rw [hsplit] at hchron
    have hkept := kept_merge hrule (pairwise_append.mp hchron).1 hx
    have hxrows : x ∈ rows := by
      rw [← hperm.mem_iff, hsplit]
      exact mem_append_left _ hkept.mem
    have hage := le_antisymm (hle x hkept.mem) (hkept.newest rfl p hin)
    by_cases hxp : x = p
    · rw [hx, hxp]
    · exact absurd (hkept.lightest p hin)
        (not_le.mpr (determined_unique hrule hnodup hdet hxrows hxp hage))
  have hnext : rule.NextContradicts rows p := by
    intro r hr hlt hfirst
    refine determined_next hrule hnodup hdet hr hlt ?_
    intro older rest hsplit holder
    refine hclean r older (r :: rest) (.inl hlt) hsplit ((holder p hp).mpr hlt) ?_
    intro q hq
    have hqrows : q ∈ rows := by
      rw [← (rule.ordering_orderWith rows r).1.mem_iff, hsplit]
      exact mem_append_left _ hq
    exact not_lt.mp fun hlt' => absurd ((holder q hqrows).mp hq) (not_lt.mpr (hfirst q hqrows hlt'))
  by_cases hnewer : ∃ q ∈ rows, rule.age p < rule.age q
  · exact .inr ⟨hlighter, fun _ => ⟨hnewer, hnext⟩⟩
  · -- nothing is newer: the clean order ends unflagged, so no order may be flagged
    refine .inl ⟨?_, hnext⟩
    have hold : ∀ q ∈ rows, rule.age q ≤ rule.age p := fun q hq =>
      not_lt.mp fun hlt => hnewer ⟨q, hq, hlt⟩
    obtain ⟨hperm, hchron⟩ := rule.ordering_orderWith rows p
    have hunflagged := hclean p (rule.orderWith rows p) [] (.inr hlightest)
      (append_nil _).symm (hperm.mem_iff.mpr hp)
      fun q hq => hold q (hperm.mem_iff.mp hq)
    rw [hdet _ ⟨hperm, hchron⟩] at hunflagged
    cases hunflagged
    intro a ha b hb hab hle ht
    rintro (hclash | ⟨hage, hweight⟩)
    · exact hm.1 a ha b hb hab hle ht hclash
    · obtain ⟨older, rest, hsplit, holder, hlt⟩ := rule.orderWith_split hnodup hb
      have hordering := rule.ordering_orderWith rows b
      have hfinal := hdet _ hordering
      rw [hsplit] at hordering
      obtain ⟨x, hflag⟩ := growth_flagged hrule (pairwise_append.mp hordering.2).1 hlt
        ((holder a ha).mpr hage) hweight
      rw [hsplit, append_cons] at hfinal
      obtain ⟨y, hy⟩ := flag_append rest hflag
      rw [hfinal] at hy
      exact absurd (Prod.mk.inj (Option.some.inj hy)).1 (by simp)

variable {o : α} (ho : o ∈ rows) (hage : rule.age o < rule.age p)
  (hweight : rule.weight o ≤ rule.weight p)
include ho hage hweight

/-- With an older row as light, the rows up to `p` agree. -/
theorem forces_agree (halone : ∀ q ∈ rows, rule.age q = rule.age p → q = p) {a b : α}
    (ha : a ∈ rows) (hb : b ∈ rows) (hab : a ≠ b) (hle : rule.age a ≤ rule.age b)
    (ht : rule.age b ≤ rule.age p) : ¬ rule.clash a b := by
  obtain ⟨hp, -⟩ := determined_mem hrule hdet
  have hordering := rule.ordering_orderWith rows p
  obtain ⟨older, rest, hsplit⟩ := append_of_mem (hordering.1.mem_iff.mpr hp)
  rw [hsplit] at hordering
  obtain ⟨y, -, hkept, hclean, hlt⟩ := taken_in_order hrule hnodup hdet hordering
    (hordering.older_of_lt ho hage) hweight
  have hnext := kept_step hrule hkept fun q hq =>
    (pairwise_append.mp hordering.2).2.2 q hq p (by simp)
  have hunflagged : (rule.step (false, y) p).1 = false := by simp [step, hclean]
  have hin : ∀ q ∈ rows, rule.age q ≤ rule.age p → q ∈ older ++ [p] := by
    intro q hq hle
    rcases hle.eq_or_lt with heq | hlt
    · simp [halone q hq heq]
    · exact mem_append_left _ (hordering.older_of_lt hq hlt)
  exact hnext.agree hunflagged a (hin a ha (hle.trans ht)) b (hin b hb ht) hab hle

theorem forces_of_not_lighter : rule.Forces rows p := by
  obtain ⟨hp, hlightest⟩ := determined_mem hrule hdet
  -- `p` is alone at its age: a peer could come first
  have halone : ∀ q ∈ rows, rule.age q = rule.age p → q = p := by
    intro q hq heq
    by_contra hne
    exact absurd hweight (determined_peer hrule hnodup hdet hq hne heq
      fun _ _ hordering _ => hordering.older_of_lt ho hage).not_ge
  have hconsistent : rule.Consistent rows (rule.age p) := by
    intro a ha b hb hab hle ht
    obtain ⟨older, rest, hsplit, holder, hlt⟩ := rule.orderWith_split hnodup hb
    have hordering := rule.ordering_orderWith rows b
    rw [hsplit] at hordering
    rintro (hclash | ⟨hgrown, hheavier⟩)
    · exact forces_agree hrule hnodup hdet ho hage hweight halone ha hb hab hle ht hclash
    · have hin : a ∈ older := (holder a ha).mpr hgrown
      by_cases hbp : b = p
      · subst hbp
        obtain ⟨y, -, hkept, hclean, hlt⟩ := taken_in_order hrule hnodup hdet hordering hin
          hheavier.le
        exact hclean (.inr ⟨hlt, (hkept.lightest a hin).trans_lt hheavier⟩)
      · -- flagged at `b`, so still flagged where `p` is merged
        have hp' := hordering.1.mem_iff.mpr hp
        rw [append_cons, mem_append, mem_append, mem_singleton] at hp'
        rcases hp' with (hp' | hp') | hp'
        · exact absurd ((holder p hp).mp hp') (not_lt.mpr ht)
        · exact hbp hp'.symm
        · obtain ⟨middle, later, rfl⟩ := append_of_mem hp'
          obtain ⟨x, hflag⟩ := growth_flagged hrule (pairwise_append.mp hordering.2).1 hlt hin
            hheavier
          obtain ⟨z, hz⟩ := flag_append middle hflag
          rw [append_cons, ← append_assoc] at hordering
          obtain ⟨y, hy, -⟩ := taken_in_order hrule hnodup hdet hordering
            (hordering.older_of_lt ho hage) hweight
          rw [hy] at hz
          exact absurd (Prod.mk.inj (Option.some.inj hz)).1 (by simp)
  refine ⟨hp, hlightest, fun q hq hne heq => absurd (halone q hq heq) hne, .inl ⟨hconsistent, ?_⟩⟩
  intro r hr hlt hfirst
  refine determined_next hrule hnodup hdet hr hlt ?_
  intro older rest hsplit holder
  obtain ⟨hperm, hchron⟩ := rule.ordering_orderWith rows r
  have hsub : ∀ q ∈ older, q ∈ rows ∧ rule.age q ≤ rule.age p := by
    intro q hq
    have hqrows : q ∈ rows := by
      rw [← hperm.mem_iff, hsplit]
      exact mem_append_left _ hq
    exact ⟨hqrows, not_lt.mp fun hlt' => absurd ((holder q hqrows).mp hq)
      (not_lt.mpr (hfirst q hqrows hlt'))⟩
  have hin : p ∈ older := (holder p hp).mpr hlt
  have hnodup' := hperm.nodup_iff.mpr hnodup
  rw [hsplit] at hchron hnodup'
  have hchron := (pairwise_append.mp hchron).1
  obtain ⟨x, hx⟩ := merge_consistent hrule hchron (nodup_append.mp hnodup').1
    (ne_nil_of_mem hin) fun a ha b hb hab hle =>
      hconsistent a (hsub a ha).1 b (hsub b hb).1 hab hle (hsub b hb).2
  have hkept := kept_merge hrule hchron hx
  obtain ⟨hxrows, hxage⟩ := hsub x hkept.mem
  rw [hx, halone x hxrows (le_antisymm hxage (hkept.newest rfl p hin))]

end

/-- Distinct rows merge to the same end in every chronological order exactly when they force the row
that is kept. -/
theorem merge_determined_iff (hrule : rule.Coherent) (hnodup : rows.Nodup)
    (hne : rows ≠ []) :
    (∀ first second, rule.Ordering rows first → rule.Ordering rows second →
      rule.merge first = rule.merge second) ↔ ∃ p, rule.Forces rows p := by
  constructor
  · intro hsame
    obtain ⟨r, hr⟩ := exists_mem_of_ne_nil rows hne
    have hordering := rule.ordering_orderWith rows r
    obtain ⟨⟨f, p⟩, hmerged⟩ : ∃ s, rule.merge (rule.orderWith rows r) = some s :=
      merge_ne_none (ne_nil_of_mem (hordering.1.mem_iff.mpr hr))
    have hdet : ∀ order, rule.Ordering rows order → rule.merge order = some (f, p) :=
      fun order horder => (hsame order _ horder hordering).trans hmerged
    refine ⟨p, ?_⟩
    by_cases hlighter : ∀ q ∈ rows, rule.age q < rule.age p → rule.weight p < rule.weight q
    · exact forces_of_lighter hrule hnodup hdet hlighter
    · push Not at hlighter
      obtain ⟨o, ho, hage, hweight⟩ := hlighter
      exact forces_of_not_lighter hrule hnodup hdet ho hage hweight
  · rintro ⟨p, hforces⟩ first second hfirst hsecond
    obtain ⟨f, hf, hflag⟩ := hforces.merge_eq hrule hnodup hfirst
    obtain ⟨g, hg, hflag'⟩ := hforces.merge_eq hrule hnodup hsecond
    have hfg : f = g := Bool.eq_iff_iff.mpr (hflag.trans hflag'.symm)
    rw [hf, hg, hfg]

end HistoryRule

end Thytrader.Lib
