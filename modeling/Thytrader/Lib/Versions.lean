import Mathlib.Data.Int.Order.Basic
import Mathlib.Data.List.Pairwise

/-!
# Versions of a cell

A cell that is only ever replaced by a newer version: its versions so far, newest first, with a
revision that grows. `Since` is a relation between every two versions from a revision on; it is
kept by a version that stands in it to the earlier ones, and it starts over at a version of its
own.
-/

namespace Thytrader.Lib

open List

variable {α : Type}

/-- The versions so far, newest first: an older one has a smaller revision. -/
def Versions (revision : α → Int) (versions : List α) : Prop :=
  versions.Pairwise (fun newer older => revision older < revision newer)

/-- From a revision on, every version stands in the relation to every later one. -/
def Since (revision : α → Int) (mark : Int) (R : α → α → Prop) (versions : List α) : Prop :=
  ∀ a ∈ versions, ∀ b ∈ versions, mark ≤ revision a → revision a ≤ revision b → R a b

section

variable {revision : α → Int} {versions : List α}

theorem Versions.unique (h : Versions revision versions) {a b : α} (ha : a ∈ versions)
    (hb : b ∈ versions) (hrevision : revision a = revision b) : a = b := by
  induction versions with
  | nil => cases ha
  | cons _ _ ih =>
    obtain ⟨hnewest, hrest⟩ := pairwise_cons.mp h
    rcases mem_cons.mp ha with ha | ha
    · rcases mem_cons.mp hb with hb | hb
      · rw [ha, hb]
      · rw [ha] at hrevision
        exact absurd hrevision (ne_of_gt (hnewest b hb))
    · rcases mem_cons.mp hb with hb | hb
      · rw [hb] at hrevision
        exact absurd hrevision (ne_of_lt (hnewest a ha))
      · exact ih hrest ha hb

theorem Versions.le_newest {newest : α} (h : Versions revision (newest :: versions)) {a : α}
    (ha : a ∈ newest :: versions) : revision a ≤ revision newest := by
  rcases mem_cons.mp ha with ha | ha
  · rw [ha]
  · exact le_of_lt ((pairwise_cons.mp h).1 a ha)

end

variable {revision : α → Int} {mark : Int} {R : α → α → Prop} {versions : List α}

/-- A version that stands in the relation to the earlier ones keeps it. -/
theorem Since.push (h : Since revision mark R versions) {next : α}
    (hnewer : ∀ a ∈ versions, revision a < revision next) (hself : R next next)
    (hnext : ∀ a ∈ versions, mark ≤ revision a → R a next) :
    Since revision mark R (next :: versions) := by
  intro a ha b hb hmark hle
  rcases mem_cons.mp ha with heq | hold
  · subst heq
    rcases mem_cons.mp hb with heq | hbefore
    · rw [heq]
      exact hself
    · exact absurd (hnewer b hbefore) (not_lt.mpr hle)
  · rcases mem_cons.mp hb with heq | hbefore
    · rw [heq]
      exact hnext a hold hmark
    · exact h a hold b hbefore hmark hle

theorem Since.restart {next : α} (hnewer : ∀ a ∈ versions, revision a < revision next)
    (hself : R next next) : Since revision (revision next) R (next :: versions) := by
  have honly : ∀ a ∈ next :: versions, revision next ≤ revision a → a = next := by
    intro a ha hmark
    rcases mem_cons.mp ha with rfl | ha
    · rfl
    · exact absurd (hnewer a ha) (not_lt.mpr hmark)
  intro a ha b hb hmark hle
  rw [honly a ha hmark, honly b hb (le_trans hmark hle)]
  exact hself

end Thytrader.Lib
