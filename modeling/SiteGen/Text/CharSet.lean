/-!
# Sets of characters

A set of characters is a list of closed ranges of scalar values, in any order and possibly
overlapping.  Every operation is a function on that list.

* `CharSet.contains_union`, `CharSet.contains_inter`, `CharSet.contains_diff` and
  `CharSet.contains_compl` say that the operations are those of sets.
* `CharSet.ofRuns` reads the compact text in which the larger property tables are kept.
-/

namespace SiteGen

/-- A **set of characters**: the scalar values that lie in one of the closed ranges. -/
structure CharSet where
  /-- The ranges, both ends included. -/
  ranges : List (Nat × Nat)
deriving DecidableEq, Repr, Inhabited

namespace CharSet

/-- The largest scalar value. -/
def maxScalar : Nat := 0x10FFFF

/-- Whether a scalar value lies in one of the ranges. -/
def holds (ranges : List (Nat × Nat)) (n : Nat) : Bool :=
  ranges.any fun r => r.1 ≤ n && n ≤ r.2

/-- Whether the set has the character as a member. -/
def contains (s : CharSet) (c : Char) : Bool :=
  holds s.ranges c.toNat

instance : Membership Char CharSet where
  mem s c := s.contains c = true

instance (s : CharSet) (c : Char) : Decidable (c ∈ s) :=
  inferInstanceAs (Decidable (s.contains c = true))

/-- The set without members. -/
def empty : CharSet := ⟨[]⟩

/-- The set of all characters. -/
def full : CharSet := ⟨[(0, maxScalar)]⟩

/-- The characters from `lo` to `hi`. -/
def range (lo hi : Char) : CharSet := ⟨[(lo.toNat, hi.toNat)]⟩

/-- The set with one member. -/
def single (c : Char) : CharSet := range c c

/-- The set of the characters of a list. -/
def ofList (cs : List Char) : CharSet := ⟨cs.map fun c => (c.toNat, c.toNat)⟩

/-- The members of either set. -/
def union (s t : CharSet) : CharSet := ⟨s.ranges ++ t.ranges⟩

/-- The common part of two ranges, if there is one. -/
def overlap? (a b : Nat × Nat) : Option (Nat × Nat) :=
  let lo := max a.1 b.1
  let hi := min a.2 b.2
  if lo ≤ hi then some (lo, hi) else none

/-- The members of both sets. -/
def inter (s t : CharSet) : CharSet :=
  ⟨s.ranges.flatMap fun a => t.ranges.filterMap (overlap? a)⟩

/-- What is left of the range `a` without the range `b`: at most a piece on either side. -/
def cut (b a : Nat × Nat) : List (Nat × Nat) :=
  if b.2 < a.1 || a.2 < b.1 || b.2 < b.1 then [a]
  else
    (if a.1 < b.1 then [(a.1, b.1 - 1)] else []) ++ (if b.2 < a.2 then [(b.2 + 1, a.2)] else [])

/-- The members of the first set that are not in the second. -/
def diff (s t : CharSet) : CharSet :=
  ⟨t.ranges.foldl (fun rest b => rest.flatMap (cut b)) s.ranges⟩

/-- The characters that are not members. -/
def compl (s : CharSet) : CharSet := full.diff s

/-- The members of exactly one of two sets. -/
def symmDiff (s t : CharSet) : CharSet := (s.diff t).union (t.diff s)

/-- Whether every member is one of the first 128 characters. -/
def isAscii (s : CharSet) : Bool :=
  s.ranges.all fun r => r.2 < r.1 || r.2 ≤ 127

/-! ## Reading tables -/

/-- The numbers written in decimal in a text, whatever stands between them. -/
def numbers (text : List Char) : List Nat :=
  let step := fun (acc : List Nat × Option Nat) (c : Char) =>
    if c.isDigit then (acc.1, some (acc.2.getD 0 * 10 + (c.toNat - 48)))
    else match acc.2 with
      | some n => (n :: acc.1, none)
      | none => acc
  let (done, last) := text.foldl step ([], none)
  (last.toList ++ done).reverse

/-- The ranges given by alternating counts of characters left out and taken in. -/
def runs (start : Nat) : List Nat → List (Nat × Nat)
  | gap :: len :: rest => (start + gap, start + gap + len - 1) :: runs (start + gap + len) rest
  | _ => []

/-- Reads a set from alternating counts of characters **left out** and **taken in**, from the
first scalar value on. -/
def ofRuns (text : String) : CharSet := ⟨runs 0 (numbers text.toList)⟩

/-! ## Membership in the results -/

theorem holds_append (a b : List (Nat × Nat)) (n : Nat) :
    holds (a ++ b) n = (holds a n || holds b n) := by
  simp [holds]

theorem holds_flatMap_cut (b : Nat × Nat) (l : List (Nat × Nat)) (n : Nat) :
    holds (l.flatMap (cut b)) n = (holds l n && !(decide (b.1 ≤ n) && decide (n ≤ b.2))) := by
  induction l with
  | nil => simp [holds]
  | cons a l ih =>
    have hcut : holds (cut b a) n
        = ((decide (a.1 ≤ n) && decide (n ≤ a.2)) && !(decide (b.1 ≤ n) && decide (n ≤ b.2))) := by
      rw [Bool.eq_iff_iff]
      simp only [cut, holds]
      split
      · rename_i h
        simp at h ⊢
        omega
      · rename_i h
        simp at h
        split <;> split <;> simp <;> omega
    rw [List.flatMap_cons, holds_append, ih, hcut]
    simp only [holds, List.any_cons]
    cases decide (b.1 ≤ n) && decide (n ≤ b.2) <;> simp

theorem holds_foldl_cut (t l : List (Nat × Nat)) (n : Nat) :
    holds (t.foldl (fun rest b => rest.flatMap (cut b)) l) n = (holds l n && !holds t n) := by
  induction t generalizing l with
  | nil => simp [holds]
  | cons b t ih =>
    rw [List.foldl_cons, ih, holds_flatMap_cut]
    simp only [holds, List.any_cons, Bool.not_or, Bool.and_assoc]

@[simp] theorem contains_union (s t : CharSet) (c : Char) :
    (s.union t).contains c = (s.contains c || t.contains c) :=
  holds_append _ _ _

@[simp] theorem contains_diff (s t : CharSet) (c : Char) :
    (s.diff t).contains c = (s.contains c && !t.contains c) :=
  holds_foldl_cut _ _ _

@[simp] theorem contains_compl (s : CharSet) (c : Char) :
    s.compl.contains c = !s.contains c := by
  have h : full.contains c = true := by
    have := c.valid
    simp only [UInt32.isValidChar, Nat.isValidChar] at this
    simp only [full, contains, holds, maxScalar, List.any_cons, List.any_nil, Bool.or_false,
      Bool.and_eq_true, decide_eq_true_eq, Char.toNat]
    omega
  rw [compl, contains_diff, h, Bool.true_and]

theorem holds_filterMap_overlap (a : Nat × Nat) (l : List (Nat × Nat)) (n : Nat) :
    holds (l.filterMap (overlap? a)) n = ((decide (a.1 ≤ n) && decide (n ≤ a.2)) && holds l n) := by
  induction l with
  | nil => simp [holds]
  | cons b l ih =>
    rw [Bool.eq_iff_iff] at ih ⊢
    rw [List.filterMap_cons]
    simp only [holds, List.any_cons, Bool.and_eq_true, Bool.or_eq_true, decide_eq_true_eq] at ih ⊢
    split
    · rename_i h
      simp only [overlap?] at h
      split at h
      · simp at h
      · grind
    · rename_i r h
      simp only [overlap?] at h
      split at h
      · simp only [Option.some.injEq] at h
        subst h
        simp only [List.any_cons, Bool.and_eq_true, Bool.or_eq_true, decide_eq_true_eq]
        grind
      · simp at h

@[simp] theorem contains_inter (s t : CharSet) (c : Char) :
    (s.inter t).contains c = (s.contains c && t.contains c) := by
  obtain ⟨l⟩ := s
  simp only [contains, inter]
  induction l with
  | nil => simp [holds]
  | cons a l ih =>
    rw [List.flatMap_cons, holds_append, ih, holds_filterMap_overlap]
    simp only [holds, List.any_cons, Bool.and_or_distrib_right]

end CharSet

end SiteGen
