import Mathlib
import WordLint.Regex.Reader

/-!
# Expressions of one shape

Two expressions have one shape when they differ only in the characters that they look for, and there only
by a relation between characters. What is asked of an expression while a pattern is read is asked of its
shape: its width (`SameShape.width`), whether it can be repeated (`SameShape.repetitionProblem?`), and
whether it can be matched (`SameShape.unmatchable?`).
-/

namespace WordLint.Regex

variable {L : Char → Char → Prop}

/-- Two code points are the same, or those of related characters. -/
inductive SameCode (L : Char → Char → Prop) : Nat → Nat → Prop where
  | same (code : Nat) : SameCode L code code
  | literal {c d : Char} (h : L c d) : SameCode L c.toNat d.toNat

/-- Two items of sets differ only in their characters. -/
inductive SameItem (L : Char → Char → Prop) : SetItem → SetItem → Prop where
  | char {a b : Nat} (h : SameCode L a b) : SameItem L (.char a) (.char b)
  | range {a b a' b' : Nat} (hlow : SameCode L a a') (hhigh : SameCode L b b') :
    SameItem L (.range a b) (.range a' b')
  | named (cls : CharClass) (negated : Bool) : SameItem L (.named cls negated) (.named cls negated)

/-- Two expressions differ only in their characters. -/
inductive SameShape (L : Char → Char → Prop) : Regex → Regex → Prop where
  | empty : SameShape L .empty .empty
  | any : SameShape L .any .any
  | char {a b : Nat} (h : SameCode L a b) : SameShape L (.char a) (.char b)
  | set (negated : Bool) {items items' : List SetItem} (h : List.Forall₂ (SameItem L) items items') :
    SameShape L (.set negated items) (.set negated items')
  | anchor (a : Anchor) : SameShape L (.anchor a) (.anchor a)
  | cat {r r' s s' : Regex} (hr : SameShape L r r') (hs : SameShape L s s') :
    SameShape L (.cat r s) (.cat r' s')
  | alt {r r' s s' : Regex} (hr : SameShape L r r') (hs : SameShape L s s') :
    SameShape L (.alt r s) (.alt r' s')
  | group (index : Nat) {r r' : Regex} (h : SameShape L r r') :
    SameShape L (.group index r) (.group index r')
  | flagged (add remove : List Flag) {r r' : Regex} (h : SameShape L r r') :
    SameShape L (.scoped add remove r) (.scoped add remove r')
  | repeated (greed : Greed) (least : Nat) (most : Option Nat) {r r' : Regex} (h : SameShape L r r') :
    SameShape L (.repeated greed least most r) (.repeated greed least most r')
  | look (direction : Direction) (negated : Bool) {r r' : Regex} (h : SameShape L r r') :
    SameShape L (.look direction negated r) (.look direction negated r')
  | atomic {r r' : Regex} (h : SameShape L r r') : SameShape L (.atomic r) (.atomic r')
  | backref (index : Nat) : SameShape L (.backref index) (.backref index)
  | conditional (index : Nat) {r r' s s' : Regex} (hr : SameShape L r r') (hs : SameShape L s s') :
    SameShape L (.conditional index r s) (.conditional index r' s')

theorem SameItem.refl (item : SetItem) : SameItem L item item := by
  cases item with
  | char code => exact .char (.same code)
  | range low high => exact .range (.same low) (.same high)
  | named cls negated => exact .named cls negated

/-! ## Sequences and alternatives -/

theorem SameShape.catAll {rs ss : List Regex} (h : List.Forall₂ (SameShape L) rs ss) :
    SameShape L (Regex.catAll rs) (Regex.catAll ss) := by
  induction h with
  | nil => exact .empty
  | cons hr hrest ih =>
    cases hrest with
    | nil => exact hr
    | cons _ _ => exact .cat hr ih

theorem SameShape.altAll {rs ss : List Regex} (h : List.Forall₂ (SameShape L) rs ss) :
    SameShape L (Regex.altAll rs) (Regex.altAll ss) := by
  induction h with
  | nil => exact .empty
  | cons hr hrest ih =>
    cases hrest with
    | nil => exact hr
    | cons _ _ => exact .alt hr ih

/-! ## What depends on the shape alone -/

/-- Expressions of one shape have one width. -/
theorem SameShape.width {r s : Regex} (h : SameShape L r s) (groups : Nat → Width) :
    r.width groups = s.width groups := by
  induction h with
  | empty | any | char | set | anchor | look | backref => rfl
  | cat _ _ hr hs => simp only [Regex.width, hr, hs]
  | alt _ _ hr hs => simp only [Regex.width, hr, hs]
  | group _ _ ih => exact ih
  | flagged _ _ _ ih => exact ih
  | repeated _ _ most _ ih => cases most <;> simp only [Regex.width, ih]
  | atomic _ ih => exact ih
  | conditional _ _ _ hr hs => simp only [Regex.width, hr, hs]

/-- Expressions of one shape are refused a repetition for one reason. -/
theorem SameShape.repetitionProblem? {r s : Regex} (h : SameShape L r s) :
    Regex.repetitionProblem? (some r) = Regex.repetitionProblem? (some s) := by
  cases h <;> rfl

/-- Expressions of one shape cannot be matched for one reason. -/
theorem SameShape.unmatchable? {r s : Regex} (h : SameShape L r s) (template : Bool) :
    r.unmatchable? template = s.unmatchable? template := by
  induction h with
  | empty | any | char | set | anchor | backref => rfl
  | cat _ _ hr hs => simp only [Regex.unmatchable?, hr, hs]
  | alt _ _ hr hs => simp only [Regex.unmatchable?, hr, hs]
  | group _ _ ih => exact ih
  | flagged _ _ _ ih => exact ih
  | repeated _ _ _ _ ih => simp only [Regex.unmatchable?, ih]
  | look direction _ _ ih => cases direction <;> simp only [Regex.unmatchable?, ih]
  | atomic _ ih => exact ih
  | conditional _ _ _ hr hs => simp only [Regex.unmatchable?, hr, hs]

/-! ## Equal characters -/

theorem SameCode.eq {a b : Nat} (hL : ∀ {c d}, L c d → c = d) (h : SameCode L a b) : a = b := by
  cases h with
  | same => rfl
  | literal h => rw [hL h]

theorem SameItem.eq {a b : SetItem} (hL : ∀ {c d}, L c d → c = d) (h : SameItem L a b) : a = b := by
  cases h with
  | char h => rw [h.eq hL]
  | range hlow hhigh => rw [hlow.eq hL, hhigh.eq hL]
  | named => rfl

/-- Expressions of one shape with equal characters are equal. -/
theorem SameShape.eq {r s : Regex} (hL : ∀ {c d}, L c d → c = d) (h : SameShape L r s) : r = s := by
  induction h with
  | empty | any | anchor | backref => rfl
  | char h => rw [h.eq hL]
  | set negated h =>
    have hitems := (List.forall₂_eq_eq_eq (α := SetItem)) ▸ h.imp fun _ _ h => SameItem.eq hL h
    rw [hitems]
  | cat _ _ hr hs | alt _ _ hr hs | conditional _ _ _ hr hs => rw [hr, hs]
  | group _ _ ih | flagged _ _ _ ih | repeated _ _ _ _ ih | look _ _ _ ih | atomic _ ih => rw [ih]

end WordLint.Regex
