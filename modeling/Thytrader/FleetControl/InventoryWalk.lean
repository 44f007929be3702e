import Thytrader.FleetControl.InventoryText

/-!
# Inventory walks

A walk reads a first page and follows `next_cursor`, while rows come, go and change between the
reads. A read of the walk is refused exactly when the classifications differ from the first
read's (`digest_iff`), so a walk that is not refused pages one and the same list of
classifications, each page from where the last one stopped (`Consecutive`,
`inventoryWalk_complete`).

The first page is cut by position, the later ones by the key of the cursor; in a strictly descending
list that is the same (`filter_below`).
-/

namespace Thytrader.FleetControl

open Trading Lib List Option

/-! ## The order of an inventory -/

theorem filter_below {β κ : Type} [LinearOrder κ] (key : β → κ) {front rest : List β} {last : β}
    (h : (front ++ last :: rest).Pairwise (fun a b => key b < key a)) :
    (front ++ last :: rest).filter (fun item => key item < key last) = rest := by
  rw [pairwise_append, pairwise_cons] at h
  obtain ⟨-, ⟨hrest, -⟩, hfront⟩ := h
  have hbefore : front.filter (fun item => key item < key last) = [] := by
    refine filter_eq_nil_iff.mpr fun item hitem => ?_
    have habove := hfront item hitem last (by simp)
    simpa using habove.le
  have hafter : rest.filter (fun item => key item < key last) = rest :=
    filter_eq_self.mpr fun item hitem => by simpa using hrest item hitem
  rw [filter_append, hbefore, nil_append, filter_cons_of_neg (by simp), hafter]

/-- `(created_at, id.int)` of a classification. -/
def Classification.key (c : Classification) : Time ×ₗ Nat := toLex (c.createdAt, c.id.toNat)

/-- What the store lists: one row for an id, created within the range of `datetime`. -/
structure StoredDeployments where
  rows : List Deployment
  distinct : (rows.map (·.id)).Nodup
  dated : ∀ row ∈ rows, IsDatetime row.createdAt

namespace StoredDeployments

variable (stored : StoredDeployments) (strategyId : Option Uuid) (asOf : Time)

def matching : List Classification :=
  (stored.rows.filter (inventoryMatches strategyId asOf)).map classify

/-- The rows of an inventory, in its order. -/
def selected : List Deployment := selectRows stored.rows strategyId asOf

theorem selected_perm :
    (stored.selected strategyId asOf).Perm
      (stored.rows.filter (inventoryMatches strategyId asOf)) :=
  perm_insertionSort _ _

theorem mem_of_selected {row : Deployment} (h : row ∈ stored.selected strategyId asOf) :
    row ∈ stored.rows :=
  (mem_filter.mp ((stored.selected_perm strategyId asOf).mem_iff.mp h)).1

theorem selected_dated : ∀ row ∈ stored.selected strategyId asOf, IsDatetime row.createdAt :=
  fun row h => stored.dated row (stored.mem_of_selected strategyId asOf h)

/-- Rows created together have different ids. -/
theorem selected_descending :
    (stored.selected strategyId asOf).Pairwise (fun a b => inventoryKey b < inventoryKey a) := by
  have hsorted : (stored.selected strategyId asOf).Pairwise
      (fun a b => inventoryKey b ≤ inventoryKey a) := pairwise_insertionSort _ _
  have hdistinct : (stored.selected strategyId asOf).Pairwise (fun a b => a.id ≠ b.id) := by
    have hnodup : ((stored.selected strategyId asOf).map (·.id)).Nodup :=
      ((stored.selected_perm strategyId asOf).map _).nodup_iff.mpr
        (stored.distinct.sublist (filter_sublist.map _))
    exact pairwise_map.mp hnodup
  refine (hsorted.and hdistinct).imp ?_
  rintro a b ⟨hle, hne⟩
  refine lt_of_le_of_ne hle fun heq => hne ?_
  have hid : b.id.toNat = a.id.toNat := congrArg (fun key => (ofLex key).2) heq
  exact BitVec.eq_of_toNat_eq hid.symm

theorem classes_descending :
    ((stored.selected strategyId asOf).map classify).Pairwise (fun a b => b.key < a.key) :=
  pairwise_map.mpr (stored.selected_descending strategyId asOf)

theorem classes_perm :
    ((stored.selected strategyId asOf).map classify).Perm (stored.matching strategyId asOf) :=
  (stored.selected_perm strategyId asOf).map classify

/-- In the order of an inventory, the same classifications are the same list. -/
theorem classes_eq_iff (other : StoredDeployments) :
    (stored.selected strategyId asOf).map classify =
        (other.selected strategyId asOf).map classify ↔
      ∀ c, c ∈ stored.matching strategyId asOf ↔ c ∈ other.matching strategyId asOf := by
  have hstored := stored.classes_descending strategyId asOf
  have hother := other.classes_descending strategyId asOf
  constructor
  · intro h c
    rw [← (stored.classes_perm strategyId asOf).mem_iff, h,
      (other.classes_perm strategyId asOf).mem_iff]
  · intro h
    have hnodup : ∀ {classes : List Classification},
        classes.Pairwise (fun a b => b.key < a.key) → classes.Nodup := by
      intro classes hclasses
      exact hclasses.imp fun hlt heq => absurd hlt (by rw [heq]; exact lt_irrefl _)
    have hperm := (perm_ext_iff_of_nodup (hnodup hstored) (hnodup hother)).mpr fun c => by
      rw [(stored.classes_perm strategyId asOf).mem_iff, h,
        (other.classes_perm strategyId asOf).mem_iff]
    exact hperm.eq_of_pairwise (fun a b _ _ hab hba => absurd (hab.trans hba) (lt_irrefl _))
      hstored hother

end StoredDeployments

/-! ## One page -/

/-- The page that starts after `start` rows. -/
def pageFrom (selected : List Deployment) (limit start : Nat) (strategyId : Option Uuid)
    (asOf : Time) (fingerprint : List Char) : InventoryPage :=
  let page := (selected.drop start).take limit
  let hasMore : Bool := start + page.length < selected.length
  { deployments := page
    limit := limit
    offset := start
    returned := page.length
    total := selected.length
    hasMore := hasMore
    asOf := asOf
    fingerprint := fingerprint
    nextCursor := if hasMore then page.getLast?.map (fun last =>
      encodeCursor ⟨asOf, strategyId, fingerprint, last.createdAt, last.id⟩) else none }

section

variable {sha256 : List Char → List Char} {stored : StoredDeployments} {limit : Nat}
  {strategyId : Option Uuid} {asOf : Time}

variable {cursor : InventoryCursor}

theorem pageDeployments_next {front rest : List Deployment} {last : Deployment}
    (hselected : stored.selected strategyId asOf = front ++ last :: rest)
    (hfingerprint : sha256 (inventoryText (stored.selected strategyId asOf)) = cursor.fingerprint)
    (hkey : inventoryKey last = toLex (cursor.createdAt, cursor.deploymentId.toNat)) :
    pageDeployments sha256 stored.rows limit 0 strategyId asOf (some cursor) =
      .ok (pageFrom (stored.selected strategyId asOf) limit (front.length + 1) strategyId asOf
        cursor.fingerprint) := by
  have hdescending := stored.selected_descending strategyId asOf
  have hremaining : remainingRows (stored.selected strategyId asOf) (some cursor) = rest := by
    rw [hselected] at hdescending ⊢
    rw [remainingRows, ← hkey]
    exact filter_below inventoryKey hdescending
  have hdrop : (stored.selected strategyId asOf).drop (front.length + 1) = rest := by
    rw [hselected, append_cons, drop_left' (by simp)]
  have hstart : (stored.selected strategyId asOf).length - rest.length = front.length + 1 := by
    rw [hselected, length_append, length_cons]
    omega
  unfold pageDeployments
  rw [show selectRows stored.rows strategyId asOf = stored.selected strategyId asOf from rfl,
    if_neg (by simpa using hfingerprint), hremaining, hfingerprint]
  simp only [isSome_some, if_true, hstart]
  unfold pageFrom
  simp only [hdrop]

end

/-! ## A walk -/

/-- One read of a walk: what the store lists, the limit, the clock, and whether the request repeats
the inventory's instant. -/
structure PageRead where
  stored : StoredDeployments
  limit : Nat
  now : Time
  pinned : Bool
  limit_pos : 0 < limit

/-- The reads of a walk: the first at offset 0, each later one with the cursor of the page
before. `none` after the last page or a refusal. -/
def walkRead (sha256 : List Char → List Char) (validate : List UInt8 → Option ParsedCursor)
    (reads : Nat → PageRead) (strategyId : Option Uuid) (asOf : Option Time) :
    Nat → Option (Result InventoryPage)
  | 0 => some (readStableInventory sha256 validate (reads 0).stored.rows (reads 0).now
      (reads 0).limit 0 strategyId asOf none)
  | n + 1 =>
    match walkRead sha256 validate reads strategyId asOf n with
    | some (.ok page) => page.nextCursor.map fun cursor =>
        readStableInventory sha256 validate (reads (n + 1)).stored.rows (reads (n + 1)).now
          (reads (n + 1)).limit 0 strategyId
          (if (reads (n + 1)).pinned then some page.asOf else none) (some cursor)
    | _ => none

/-- What a walk rests on: a digest of 64 digits without a collision with the first read, a validator
that reads cursors back, and instants in range. -/
structure WalkGround (sha256 : List Char → List Char)
    (validate : List UInt8 → Option ParsedCursor) (reads : Nat → PageRead)
    (strategyId : Option Uuid) (asOf : Time) : Prop where
  hexdigest : ∀ text, IsHexdigest (sha256 text)
  collisionFree : ∀ n, sha256 (inventoryText ((reads n).stored.selected strategyId asOf)) =
      sha256 (inventoryText ((reads 0).stored.selected strategyId asOf)) →
    inventoryText ((reads n).stored.selected strategyId asOf) =
      inventoryText ((reads 0).stored.selected strategyId asOf)
  readsBack : ReadsBack validate
  dated : IsDatetime asOf

/-- The inventory of a read has what the first one had. -/
def Unchanged (reads : Nat → PageRead) (strategyId : Option Uuid) (asOf : Time) (n : Nat) : Prop :=
  ∀ c, c ∈ (reads n).stored.matching strategyId asOf ↔ c ∈ (reads 0).stored.matching strategyId asOf

section

variable {sha256 : List Char → List Char} {validate : List UInt8 → Option ParsedCursor}
  {reads : Nat → PageRead} {strategyId : Option Uuid} {asOf : Time}

theorem digest_iff (h : WalkGround sha256 validate reads strategyId asOf) (n : Nat) :
    sha256 (inventoryText ((reads n).stored.selected strategyId asOf)) =
        sha256 (inventoryText ((reads 0).stored.selected strategyId asOf)) ↔
      Unchanged reads strategyId asOf n := by
  have htext := inventoryText_inj ((reads n).stored.selected_dated strategyId asOf)
    ((reads 0).stored.selected_dated strategyId asOf)
  rw [Unchanged, ← (reads n).stored.classes_eq_iff strategyId asOf (reads 0).stored, ← htext]
  exact ⟨h.collisionFree n, fun heq => by rw [heq]⟩

/-- What one read of the walk answers: a refusal when the inventory changed, else the page that
starts after `start` rows. -/
inductive PageAnswers (sha256 : List Char → List Char) (reads : Nat → PageRead)
    (strategyId : Option Uuid) (asOf : Time) (n : Nat) : Result InventoryPage → Prop
  | changed (h : ¬ Unchanged reads strategyId asOf n) :
      PageAnswers sha256 reads strategyId asOf n (.error inventoryChanged)
  | page (h : Unchanged reads strategyId asOf n) (start : Nat)
      (hstart : start ≤ ((reads 0).stored.selected strategyId asOf).length) :
      PageAnswers sha256 reads strategyId asOf n
        (.ok (pageFrom ((reads n).stored.selected strategyId asOf) (reads n).limit start strategyId
          asOf (sha256 (inventoryText ((reads 0).stored.selected strategyId asOf)))))

theorem Unchanged.classes {n : Nat} (h : Unchanged reads strategyId asOf n) :
    ((reads n).stored.selected strategyId asOf).map classify =
      ((reads 0).stored.selected strategyId asOf).map classify :=
  ((reads n).stored.classes_eq_iff strategyId asOf (reads 0).stored).mpr h

theorem Unchanged.written {n : Nat} (h : Unchanged reads strategyId asOf n) (limit start : Nat) :
    ((((reads n).stored.selected strategyId asOf).drop start).take limit).map classify =
      ((((reads 0).stored.selected strategyId asOf).map classify).drop start).take
        ((((reads n).stored.selected strategyId asOf).drop start).take limit).length := by
  rw [← h.classes, ← map_drop, ← map_take, length_take]
  congr 1
  rw [take_eq_take_iff]
  omega

theorem Unchanged.length {n : Nat} (h : Unchanged reads strategyId asOf n) :
    ((reads n).stored.selected strategyId asOf).length =
      ((reads 0).stored.selected strategyId asOf).length := by
  have hlength := congrArg List.length h.classes
  rwa [length_map, length_map] at hlength

/-- A page with a cursor ends at a row, with rows after it. -/
theorem pageFrom_cursor {selected : List Deployment} {limit start : Nat}
    {fingerprint text : List Char}
    (h : (pageFrom selected limit start strategyId asOf fingerprint).nextCursor = some text) :
    ∃ front last rest, selected = front ++ last :: rest ∧
      front.length + 1 = start + ((selected.drop start).take limit).length ∧ rest ≠ [] ∧
      text = encodeCursor ⟨asOf, strategyId, fingerprint, last.createdAt, last.id⟩ := by
  obtain ⟨hmore, h⟩ := of_ite_ne_else h nofun
  have hmore : start + ((selected.drop start).take limit).length < selected.length := by
    simpa using hmore
  obtain ⟨last, hlast, rfl⟩ := map_eq_some_iff.mp h
  obtain ⟨init, hinit⟩ := getLast?_eq_some_iff.mp hlast
  refine ⟨selected.take start ++ init, last, (selected.drop start).drop limit, ?_, ?_, ?_, rfl⟩
  · have hsplit := take_append_drop limit (selected.drop start)
    rw [hinit] at hsplit
    calc selected = selected.take start ++ selected.drop start :=
          (take_append_drop start selected).symm
      _ = selected.take start ++ (init ++ [last] ++ (selected.drop start).drop limit) :=
          congrArg _ hsplit.symm
      _ = _ := by simp
  · rw [hinit, length_append, length_append, length_take]
    simp only [length_singleton]
    omega
  · intro hnil
    have hlength := congrArg List.length hnil
    rw [length_take, length_drop] at hmore
    rw [length_drop, length_drop, length_nil] at hlength
    omega

section

variable (h : WalkGround sha256 validate reads strategyId asOf) {n start : Nat}
include h

theorem page_cursor {text : List Char}
    (hcursor : (pageFrom ((reads n).stored.selected strategyId asOf) (reads n).limit start
      strategyId asOf (sha256 (inventoryText
        ((reads 0).stored.selected strategyId asOf)))).nextCursor = some text) :
    ∃ cursor : InventoryCursor, cursor.Valid ∧ text = encodeCursor cursor ∧
      cursor.asOf = asOf ∧ cursor.strategyId = strategyId ∧
      cursor.fingerprint = sha256 (inventoryText ((reads 0).stored.selected strategyId asOf)) ∧
      ∃ front last rest, (reads n).stored.selected strategyId asOf = front ++ last :: rest ∧
        front.length + 1 = start + (((reads n).stored.selected strategyId asOf).drop start |>.take
          (reads n).limit).length ∧
        inventoryKey last = toLex (cursor.createdAt, cursor.deploymentId.toNat) := by
  obtain ⟨front, last, rest, hselected, hlength, -, rfl⟩ := pageFrom_cursor hcursor
  have hmem : last ∈ (reads n).stored.selected strategyId asOf := by
    rw [hselected]
    simp
  exact ⟨_, ⟨h.dated, (reads n).stored.selected_dated strategyId asOf last hmem, h.hexdigest _⟩,
    rfl, rfl, rfl, rfl, front, last, rest, hselected, hlength, rfl⟩

theorem walk_step (hunchanged : Unchanged reads strategyId asOf n) {text : List Char} {now : Time}
    {pin : Option Time} (hpin : pin = none ∨ pin = some asOf)
    (hcursor : (pageFrom ((reads n).stored.selected strategyId asOf) (reads n).limit start
      strategyId asOf (sha256 (inventoryText
        ((reads 0).stored.selected strategyId asOf)))).nextCursor = some text) :
    readStableInventory sha256 validate (reads (n + 1)).stored.rows now
        (reads (n + 1)).limit 0 strategyId pin (some text) =
      if sha256 (inventoryText ((reads (n + 1)).stored.selected strategyId asOf)) =
          sha256 (inventoryText ((reads 0).stored.selected strategyId asOf)) then
        .ok (pageFrom ((reads (n + 1)).stored.selected strategyId asOf) (reads (n + 1)).limit
          (start + (((reads n).stored.selected strategyId asOf).drop start |>.take
            (reads n).limit).length) strategyId asOf
          (sha256 (inventoryText ((reads 0).stored.selected strategyId asOf))))
      else .error inventoryChanged := by
  obtain ⟨cursor, hvalid, rfl, rfl, rfl, hfingerprint, front, last, rest, hselected, hlength, hkey⟩ :=
    page_cursor h hcursor
  have hdecode := decodeCursor_encode h.readsBack hvalid
  have hlimit := (reads (n + 1)).limit_pos
  have hcheck : checkContinuation 0 cursor.strategyId pin cursor = .ok () := by
    unfold checkContinuation
    obtain rfl | rfl := hpin <;> simp
  unfold readStableInventory
  rw [if_neg (by omega)]
  dsimp only
  rw [hdecode]
  change (checkContinuation 0 cursor.strategyId pin cursor >>= fun _ => pageDeployments sha256 _
    (reads (n + 1)).limit 0 cursor.strategyId cursor.asOf _) = _
  rw [hcheck]
  by_cases hsame : sha256 (inventoryText ((reads (n + 1)).stored.selected cursor.strategyId
      cursor.asOf)) = sha256 (inventoryText ((reads 0).stored.selected cursor.strategyId
        cursor.asOf))
  · -- the row of the cursor is still there, with the same rows before it
    have hclasses := ((digest_iff h (n + 1)).mp hsame).classes.trans hunchanged.classes.symm
    rw [hselected] at hclasses
    obtain ⟨front', rest', hselected', hfront, hrest⟩ := map_eq_append_iff.mp
      (hclasses.trans map_append)
    obtain ⟨last', rest'', rfl, hlast, -⟩ := map_eq_cons_iff.mp hrest
    have hplace : front'.length = front.length := by
      have hlengths := congrArg List.length hfront
      rwa [length_map, length_map] at hlengths
    have hkey' : inventoryKey last' = toLex (cursor.createdAt, cursor.deploymentId.toNat) :=
      (congrArg Classification.key hlast).trans hkey
    rw [if_pos hsame, ← hlength, ← hplace, ← hfingerprint]
    exact pageDeployments_next hselected' (hsame.trans hfingerprint.symm) hkey'
  · rw [if_neg hsame]
    exact if_pos (decide_eq_true (by rwa [hfingerprint]))

end

/-- The instant of the inventory of a walk. -/
def walkAsOf (reads : Nat → PageRead) (asOf : Option Time) : Time := asOf.getD (reads 0).now

variable {given : Option Time}

theorem walk_first : walkRead sha256 validate reads strategyId given 0 = some (.ok (pageFrom
    ((reads 0).stored.selected strategyId (walkAsOf reads given)) (reads 0).limit 0 strategyId
    (walkAsOf reads given) (sha256 (inventoryText
      ((reads 0).stored.selected strategyId (walkAsOf reads given)))))) := by
  have hlimit := (reads 0).limit_pos
  rw [walkRead, readStableInventory, if_neg (by omega)]
  exact congrArg some rfl

/-- The reads of a walk that was not refused before read `n`. -/
theorem walk_answers (h : WalkGround sha256 validate reads strategyId (walkAsOf reads given))
    (n : Nat) {result : Result InventoryPage}
    (hresult : walkRead sha256 validate reads strategyId given n = some result) :
    PageAnswers sha256 reads strategyId (walkAsOf reads given) n result := by
  induction n generalizing result with
  | zero =>
    cases walk_first.symm.trans hresult
    exact .page (fun _ => Iff.rfl) 0 (Nat.zero_le _)
  | succ n ih =>
    unfold walkRead at hresult
    cases hbefore : walkRead sha256 validate reads strategyId given n with
    | none =>
      rw [hbefore] at hresult
      cases hresult
    | some =>
      rw [hbefore] at hresult
      cases ih hbefore with
      | changed => cases hresult
      | page hunchanged start =>
        obtain ⟨text, htext, rfl⟩ := map_eq_some_iff.mp hresult
        have hpin : (if (reads (n + 1)).pinned then some (walkAsOf reads given) else none) = none ∨
            (if (reads (n + 1)).pinned then some (walkAsOf reads given) else none) =
              some (walkAsOf reads given) := by
          cases (reads (n + 1)).pinned
          · exact .inl rfl
          · exact .inr rfl
        have hread := @walk_step _ _ _ _ _ h n start hunchanged text (reads (n + 1)).now _ hpin htext
        by_cases hsame : Unchanged reads strategyId (walkAsOf reads given) (n + 1)
        · rw [if_pos ((digest_iff h (n + 1)).mpr hsame)] at hread
          refine Eq.mpr (congrArg _ hread) (.page hsame _ ?_)
          have hlength := hunchanged.length
          rw [length_take, length_drop]
          omega
        · rw [if_neg (mt (digest_iff h (n + 1)).mp hsame)] at hread
          exact Eq.mpr (congrArg _ hread) (.changed hsame)

end

/-! ## Complete walks -/

inductive Consecutive (classes : List Classification) : Nat → List InventoryPage → Prop
  | last {start : Nat} {page : InventoryPage} (hoffset : page.offset = start)
      (htotal : page.total = classes.length) (hreturned : page.returned = page.deployments.length)
      (hmore : page.hasMore = false)
      (hclasses : page.deployments.map classify = classes.drop start) :
      Consecutive classes start [page]
  | more {start : Nat} {page : InventoryPage} {pages : List InventoryPage}
      (hoffset : page.offset = start) (htotal : page.total = classes.length)
      (hreturned : page.returned = page.deployments.length) (hmore : page.hasMore = true)
      (hclasses : page.deployments.map classify = (classes.drop start).take page.deployments.length)
      (hpages : Consecutive classes (start + page.deployments.length) pages) :
      Consecutive classes start (page :: pages)

/-- What a walk that was never refused has read. -/
structure CompleteWalk (matching : List Classification) (pages : List InventoryPage) : Prop where
  nonempty : pages ≠ []
  each_once : ((pages.flatMap (·.deployments)).map classify).Perm matching
  descending : (pages.flatMap (·.deployments)).Pairwise (fun a b => inventoryKey b < inventoryKey a)
  total : ∀ page ∈ pages, page.total = matching.length
  returned : ∀ page ∈ pages, page.returned = page.deployments.length
  offset : ∀ i page, pages[i]? = some page →
    page.offset = ((pages.take i).flatMap (·.deployments)).length
  hasMore : ∀ i page, pages[i]? = some page → (page.hasMore = true ↔ i + 1 < pages.length)

section

variable {classes : List Classification} {start : Nat} {pages : List InventoryPage}

section

variable (h : Consecutive classes start pages)
include h

theorem Consecutive.nonempty : pages ≠ [] := by
  cases h <;> simp

theorem Consecutive.classes_eq :
    (pages.flatMap (·.deployments)).map classify = classes.drop start := by
  induction h with
  | last _ _ _ _ hclasses => simpa using hclasses
  | @more start page pages _ _ _ _ hclasses _ ih =>
    rw [flatMap_cons, map_append, ih, hclasses, ← drop_drop, take_append_drop]

theorem Consecutive.each : ∀ page ∈ pages,
    page.total = classes.length ∧ page.returned = page.deployments.length := by
  induction h with
  | last _ htotal hreturned =>
    intro page hpage
    obtain rfl := mem_singleton.mp hpage
    exact ⟨htotal, hreturned⟩
  | more _ htotal hreturned _ _ _ ih =>
    intro page hpage
    rcases mem_cons.mp hpage with rfl | hpage
    · exact ⟨htotal, hreturned⟩
    · exact ih page hpage

theorem Consecutive.place {i : Nat} {page : InventoryPage} (hpage : pages[i]? = some page) :
    page.offset = start + ((pages.take i).flatMap (·.deployments)).length ∧
      (page.hasMore = true ↔ i + 1 < pages.length) := by
  induction h generalizing i with
  | last hoffset _ _ hmore =>
    cases i with
    | zero =>
      cases hpage
      exact ⟨hoffset, by simp [hmore]⟩
    | succ => cases hpage
  | more hoffset _ _ hmore _ hpages ih =>
    cases i with
    | zero =>
      cases hpage
      have hpos := length_pos_iff.mpr hpages.nonempty
      exact ⟨hoffset, by simp [hmore, hpos]⟩
    | succ =>
      obtain ⟨hplace, hnext⟩ := ih (by simpa using hpage)
      rw [take_succ_cons, flatMap_cons, length_append, length_cons, hplace]
      exact ⟨by omega, hnext.trans (by omega)⟩

end

theorem Consecutive.complete {matching : List Classification} (h : Consecutive classes 0 pages)
    (hperm : classes.Perm matching) (hdescending : classes.Pairwise (fun a b => b.key < a.key)) :
    CompleteWalk matching pages := by
  have hclasses := h.classes_eq
  rw [drop_zero] at hclasses
  have hlength := hperm.length_eq
  exact {
    nonempty := h.nonempty
    each_once := hclasses ▸ hperm
    descending := by
      rw [← hclasses, pairwise_map] at hdescending
      exact hdescending
    total := fun page hpage => ((h.each page hpage).1).trans hlength
    returned := fun page hpage => (h.each page hpage).2
    offset := fun i page hpage => by simpa using (h.place hpage).1
    hasMore := fun i page hpage => (h.place hpage).2 }

end

section

variable {sha256 : List Char → List Char} {validate : List UInt8 → Option ParsedCursor}
  {reads : Nat → PageRead} {strategyId : Option Uuid} {given : Option Time}

/-- After its last page a walk reads nothing. -/
theorem walkRead_ended {n : Nat}
    (h : walkRead sha256 validate reads strategyId given n = none) (i : Nat) :
    walkRead sha256 validate reads strategyId given (n + i) = none := by
  induction i with
  | zero => exact h
  | succ _ ih =>
    rw [← Nat.add_assoc, walkRead, ih]

/-- The rest of a walk that is not refused: pages up to the end of the inventory. -/
theorem walk_rest (h : WalkGround sha256 validate reads strategyId (walkAsOf reads given))
    (hok : ∀ n result, walkRead sha256 validate reads strategyId given n = some result →
      ∃ page, result = .ok page)
    (n start : Nat) (hunchanged : Unchanged reads strategyId (walkAsOf reads given) n)
    (hstart : start ≤ ((reads 0).stored.selected strategyId (walkAsOf reads given)).length)
    (hpage : walkRead sha256 validate reads strategyId given n = some (.ok (pageFrom
      ((reads n).stored.selected strategyId (walkAsOf reads given)) (reads n).limit start strategyId
      (walkAsOf reads given) (sha256 (inventoryText
        ((reads 0).stored.selected strategyId (walkAsOf reads given))))))) :
    ∃ pages, Consecutive (((reads 0).stored.selected strategyId (walkAsOf reads given)).map classify)
        start pages ∧
      ∀ i, walkRead sha256 validate reads strategyId given (n + i) = (pages[i]?).map .ok := by
  generalize hasOf : walkAsOf reads given = asOf at *
  generalize hfingerprint : sha256 (inventoryText ((reads 0).stored.selected strategyId asOf)) =
    fingerprint at *
  generalize hremaining : ((reads 0).stored.selected strategyId asOf).length - start = remaining
  induction remaining using Nat.strong_induction_on generalizing n start with
  | _ remaining ih =>
    have hlength := hunchanged.length
    have hwritten := hunchanged.written (reads n).limit start
    have hlimit := (reads n).limit_pos
    generalize hselected : (reads n).stored.selected strategyId asOf = selected at *
    generalize hdeployments : (selected.drop start).take (reads n).limit = deployments at hwritten
    have hcount : deployments.length = min (reads n).limit (selected.length - start) := by
      rw [← hdeployments, length_take, length_drop]
    by_cases hmore : start + deployments.length < selected.length
    · obtain ⟨last, hlast⟩ : ∃ last, deployments.getLast? = some last := by
        refine ⟨_, getLast?_eq_some_getLast ?_⟩
        intro hnil
        rw [hnil, length_nil] at hcount
        omega
      have hcursor : (pageFrom selected (reads n).limit start strategyId asOf
          fingerprint).nextCursor =
            some (encodeCursor ⟨asOf, strategyId, fingerprint, last.createdAt, last.id⟩) := by
        unfold pageFrom
        dsimp only
        rw [hdeployments, if_pos (by simpa using hmore), hlast, map_some]
      have hpin : (if (reads (n + 1)).pinned then some asOf else none) = none ∨
          (if (reads (n + 1)).pinned then some asOf else none) = some asOf := by
        cases (reads (n + 1)).pinned
        · exact .inl rfl
        · exact .inr rfl
      have hread := @walk_step sha256 validate reads strategyId asOf h n start
        hunchanged _ (reads (n + 1)).now _ hpin (by rw [hselected, hfingerprint]; exact hcursor)
      have hnext : walkRead sha256 validate reads strategyId given (n + 1) =
          some (readStableInventory sha256 validate (reads (n + 1)).stored.rows (reads (n + 1)).now
            (reads (n + 1)).limit 0 strategyId
            (if (reads (n + 1)).pinned then some asOf else none)
            (some (encodeCursor ⟨asOf, strategyId, fingerprint, last.createdAt, last.id⟩))) := by
        rw [walkRead, hpage]
        dsimp only
        rw [hcursor]
        rfl
      rw [hread] at hnext
      by_cases hsame : Unchanged reads strategyId asOf (n + 1)
      · rw [if_pos ((digest_iff h (n + 1)).mpr hsame), hfingerprint, hselected, hdeployments]
          at hnext
        obtain ⟨pages, hpages, hreads⟩ := ih _ (by omega) (n + 1) (start + deployments.length) hsame
          (by omega) hnext rfl
        refine ⟨pageFrom selected (reads n).limit start strategyId asOf fingerprint :: pages, ?_, ?_⟩
        · refine .more rfl ?_ rfl ?_ ?_ ?_
          · exact hlength.trans (length_map _).symm
          · simpa [pageFrom, hdeployments] using hmore
          · simpa [pageFrom, hdeployments] using hwritten
          · simpa [pageFrom, hdeployments] using hpages
        · intro i
          cases i with
          | zero => exact hpage
          | succ i =>
            rw [show n + (i + 1) = n + 1 + i by omega, hreads i, getElem?_cons_succ]
      · rw [if_neg (mt (digest_iff h (n + 1)).mp hsame)] at hnext
        obtain ⟨page, hcontra⟩ := hok (n + 1) _ hnext
        cases hcontra
    · have hcursor : (pageFrom selected (reads n).limit start strategyId asOf
          fingerprint).nextCursor = none := by
        unfold pageFrom
        dsimp only
        rw [hdeployments, if_neg (by simpa using hmore)]
      have hended : walkRead sha256 validate reads strategyId given (n + 1) = none := by
        rw [walkRead, hpage]
        dsimp only
        rw [hcursor, map_none]
      refine ⟨[pageFrom selected (reads n).limit start strategyId asOf fingerprint], ?_, ?_⟩
      · refine .last rfl ?_ rfl ?_ ?_
        · exact hlength.trans (length_map _).symm
        · simpa [pageFrom, hdeployments] using hmore
        · have hall : ((((reads 0).stored.selected strategyId asOf).map classify).drop
              start).length ≤ deployments.length := by
            rw [length_drop, length_map]
            omega
          rw [take_of_length_le hall] at hwritten
          simpa [pageFrom, hdeployments] using hwritten
      · intro i
        cases i with
        | zero => exact hpage
        | succ i =>
          rw [show n + (i + 1) = n + 1 + i by omega, walkRead_ended hended i]
          rfl

end

/-! ## The walk theorem -/

/-- A walk of the fleet inventory is complete or refused. -/
theorem inventoryWalk_complete {sha256 : List Char → List Char}
    {validate : List UInt8 → Option ParsedCursor} {reads : Nat → PageRead}
    {strategyId : Option Uuid} {asOf : Option Time}
    (h : WalkGround sha256 validate reads strategyId (walkAsOf reads asOf)) :
    (∀ cursor : InventoryCursor, cursor.Valid →
      decodeCursor validate (encodeCursor cursor) = .ok cursor) ∧
    (∀ n result, walkRead sha256 validate reads strategyId asOf n = some result →
      (Unchanged reads strategyId (walkAsOf reads asOf) n → ∃ page, result = .ok page ∧
        (∀ row ∈ page.deployments, row ∈ (reads n).stored.rows) ∧
        ∀ text, page.nextCursor = some text → ∃ cursor : InventoryCursor, cursor.Valid ∧
          text = encodeCursor cursor ∧ decodeCursor validate text = .ok cursor) ∧
      (¬ Unchanged reads strategyId (walkAsOf reads asOf) n → result = .error inventoryChanged)) ∧
    ((∀ n result, walkRead sha256 validate reads strategyId asOf n = some result →
        ∃ page, result = .ok page) →
      ∃ pages, CompleteWalk ((reads 0).stored.matching strategyId (walkAsOf reads asOf)) pages ∧
        ∀ n, walkRead sha256 validate reads strategyId asOf n = (pages[n]?).map .ok) := by
  refine ⟨fun cursor => decodeCursor_encode h.readsBack, ?_, ?_⟩
  · intro n result hresult
    cases walk_answers h n hresult with
    | changed hchanged => exact ⟨fun hsame => absurd hsame hchanged, fun _ => rfl⟩
    | page hsame =>
      refine ⟨fun _ => ⟨_, rfl, ?_, ?_⟩, fun hchanged => absurd hsame hchanged⟩
      · intro row hrow
        exact (reads n).stored.mem_of_selected strategyId _ (mem_of_mem_drop (mem_of_mem_take hrow))
      · intro text htext
        obtain ⟨cursor, hvalid, rfl, -⟩ := page_cursor h htext
        exact ⟨cursor, hvalid, rfl, decodeCursor_encode h.readsBack hvalid⟩
  · intro hok
    obtain ⟨pages, hpages, hreads⟩ := walk_rest h hok 0 0 (fun _ => Iff.rfl) (Nat.zero_le _)
      walk_first
    refine ⟨pages, hpages.complete ((reads 0).stored.classes_perm strategyId _)
      ((reads 0).stored.classes_descending strategyId _), fun n => ?_⟩
    rw [← hreads n, Nat.zero_add]

/-- Three books, two of them created together. -/
def twinBooks : StoredDeployments where
  rows := [(1, 1700000000000000), (2, 1700000000000000), (3, 1700000060000000)].map
    fun book : Uuid × Time =>
      { id := book.1
        strategyFingerprint := none
        strategyId := none
        productId := "BTC-USD"
        mode := .paper
        status := .running
        cash := 0
        phase := .flat
        createdAt := book.2
        updatedAt := book.2
        kind := .discretionary }
  distinct := by decide
  dated := by
    intro row hrow
    simp only [map_cons, map_nil, mem_cons, not_mem_nil, or_false] at hrow
    obtain rfl | rfl | rfl := hrow <;> exact ⟨by decide, by decide⟩

/-- Two pages of two, from books that stay as they are. -/
def twinRead : PageRead where
  stored := twinBooks
  limit := 2
  now := 1700000100000000
  pinned := true
  limit_pos := by decide

/-- The digest of the text of those books. -/
def twinDigest (_ : List Char) : List Char :=
  "0dbf04e8ffb1b512ad5acc6370faad310c4e5c56698312d0dc94753aace7a60c".toList

def twinNibbles : List Nat :=
  [0, 13, 11, 15, 0, 4, 14, 8, 15, 15, 11, 1, 11, 5, 1, 2, 10, 13, 5, 10, 12, 12, 6, 3, 7, 0,
    15, 10, 10, 13, 3, 1, 0, 12, 4, 14, 5, 12, 5, 6, 6, 9, 8, 3, 1, 2, 13, 0, 13, 12, 9, 4, 7,
    5, 3, 10, 10, 12, 14, 7, 10, 6, 0, 12]

theorem inventoryWalk_complete_twins :
    ∃ pages, CompleteWalk (twinBooks.matching none 1700000100000000) pages ∧
      ∀ n, walkRead twinDigest validateCursor (fun _ => twinRead) none none n =
        (pages[n]?).map .ok := by
  have hdigits : IsHexdigest (twinDigest []) := by
    have hnibbles : twinDigest [] = twinNibbles.map hexChar := by decide +kernel
    rw [hnibbles]
    refine ⟨rfl, ?_⟩
    intro c hc
    obtain ⟨n, hn, rfl⟩ := mem_map.mp hc
    have hsmall : ∀ n ∈ twinNibbles, n < 16 := by decide
    exact ⟨n, hsmall n hn, rfl⟩
  have hground : WalkGround twinDigest validateCursor (fun _ => twinRead) none
      (walkAsOf (fun _ => twinRead) none) :=
    { hexdigest := fun _ => hdigits
      collisionFree := fun _ _ => rfl
      readsBack := validateCursor_readsBack
      dated := ⟨by decide, by decide⟩ }
  obtain ⟨-, hreads, hwalk⟩ := inventoryWalk_complete hground
  refine hwalk fun n result hresult => ?_
  obtain ⟨page, hpage, -⟩ := (hreads n result hresult).1 fun _ => Iff.rfl
  exact ⟨page, hpage⟩

end Thytrader.FleetControl
